/-!
# Written patterns

A `PatternExpr` is a pattern as it is written: literals, classes, assertions, repetitions, groups
and alternatives, with the flags that are switched on and off inside it. What a flag does to a
literal or a class is settled only when the written pattern is given its meaning.
-/

namespace QuadWalk

/-- The switches of a pattern. -/
inductive PatternFlag where
  /-- Case is ignored: `i`. -/
  | ignoreCase
  /-- Line ends count as text ends for `^` and `$`: `m`. -/
  | multiLine
  /-- The dot matches line ends: `s`. -/
  | dotAll
  /-- Repetitions prefer to be short unless they are marked, and marked ones to be long: `U`. -/
  | lazy
  /-- Classes know all characters: `u`. -/
  | unicode
  /-- A carriage return is a line end, too: `R`. -/
  | crlf
  /-- Blanks and comments in the pattern are skipped: `x`. -/
  | extended
  deriving DecidableEq

/-- A list of switches, each turned on or off. -/
abbrev FlagChange := List (PatternFlag × Bool)

/-- Conditions on a place in the text. -/
inductive Assertion where
  /-- The start of the text or of a line: `^`. -/
  | startLine
  /-- The end of the text or of a line: `$`. -/
  | endLine
  /-- The start of the text. -/
  | startText
  /-- The end of the text. -/
  | endText
  /-- A word character on exactly one side. -/
  | wordBoundary
  /-- A word character on both sides or on neither. -/
  | notWordBoundary
  /-- A word begins. -/
  | wordStart
  /-- A word ends. -/
  | wordEnd
  /-- No word character before. -/
  | wordStartHalf
  /-- No word character after. -/
  | wordEndHalf
  deriving DecidableEq

/-- The classes with an escape of one letter. -/
inductive LetterClass where
  | digit
  | space
  | word
  deriving DecidableEq

/-- How a class names a property of characters. -/
inductive PropertyName where
  /-- A property, a category or a script by its own name. -/
  | plain (name : String)
  /-- A property and one of its values. -/
  | valued (name value : String)
  deriving DecidableEq

/-- The operators between the parts of a bracketed class. -/
inductive ClassOperator where
  | intersection
  | difference
  | symmetricDifference
  deriving DecidableEq

/-- A literal: its character, and whether it was written as a byte of two hexadecimal digits. -/
structure LiteralChar where
  char : Char
  byte : Bool
  deriving DecidableEq

/-- What stands between the brackets of a class. -/
inductive ClassExpr where
  | literal (c : LiteralChar)
  | range (first last : LiteralChar)
  | ascii (name : String) (negated : Bool)
  | letter (c : LetterClass) (negated : Bool)
  | property (p : PropertyName) (negated : Bool)
  | bracket (negated : Bool) (e : ClassExpr)
  | union (es : List ClassExpr)
  | operation (op : ClassOperator) (a b : ClassExpr)

/-- The kinds of groups. -/
inductive GroupKind where
  | capture
  | plain (flags : FlagChange)

/-- A pattern as it is written. -/
inductive PatternExpr where
  | empty
  | flags (change : FlagChange)
  | literal (c : LiteralChar)
  | dot
  | assertion (a : Assertion)
  | letter (c : LetterClass) (negated : Bool)
  | property (p : PropertyName) (negated : Bool)
  | bracket (negated : Bool) (e : ClassExpr)
  /-- A pattern again and again. A question mark after it marks the repetition. -/
  | repetition (least : Nat) (most : Option Nat) (marked : Bool) (e : PatternExpr)
  | group (kind : GroupKind) (e : PatternExpr)
  | alternation (es : List PatternExpr)
  | concat (es : List PatternExpr)

/-! ### Nesting -/

mutual

/-- How many classes are nested in a class, counting lists of parts and operators as well. A class
without parts has nothing nested in it. -/
def ClassExpr.nesting : ClassExpr → Nat
  | .bracket _ e => e.nesting + 1
  | .union [] => 0
  | .union es => ClassExpr.nestingAll es + 1
  | .operation _ a b => max a.nesting b.nesting + 1
  | _ => 0

/-- The deepest nesting in a list of classes. -/
def ClassExpr.nestingAll : List ClassExpr → Nat
  | [] => 0
  | e :: es => max e.nesting (ClassExpr.nestingAll es)

end

mutual

/-- How many patterns are nested in a pattern. -/
def PatternExpr.nesting : PatternExpr → Nat
  | .bracket _ e => e.nesting + 1
  | .repetition _ _ _ e => e.nesting + 1
  | .group _ e => e.nesting + 1
  | .alternation es => PatternExpr.nestingAll es + 1
  | .concat es => PatternExpr.nestingAll es + 1
  | _ => 0

/-- The deepest nesting in a list of patterns. -/
def PatternExpr.nestingAll : List PatternExpr → Nat
  | [] => 0
  | e :: es => max e.nesting (PatternExpr.nestingAll es)

end

/-- A sequence of parts; a single part stands for itself. -/
def PatternExpr.ofParts : List PatternExpr → PatternExpr
  | [] => .empty
  | [e] => e
  | es => .concat es

/-- A choice between branches; a single branch stands for itself. -/
def PatternExpr.ofBranches : List PatternExpr → PatternExpr
  | [e] => e
  | es => .alternation es

/-- The parts of a class; a single part stands for itself. -/
def ClassExpr.ofParts : List ClassExpr → ClassExpr
  | [e] => e
  | es => .union es

end QuadWalk
