import QuadWalk.Pattern.Basic
import QuadWalk.Pattern.PropertyLookup
import QuadWalk.Text.CaseOrbit

/-!
# The meaning of written patterns

Here the flags are settled. A flag holds from where it stands to the end of the group around it,
also in later branches of a choice. Patterns that do not know all characters are about bytes; since
only whole characters are searched, a class of theirs must not reach beyond ASCII.
-/

namespace QuadWalk

/-- The flags that matter for what a pattern means. -/
structure PatternFlags where
  ignoreCase : Bool := false
  multiLine : Bool := false
  dotAll : Bool := false
  unicode : Bool := true
  crlf : Bool := false
  lazy : Bool := false
  deriving DecidableEq

namespace PatternFlags

/-- The flags after one of them is turned on or off. -/
def set (flags : PatternFlags) : PatternFlag × Bool → PatternFlags
  | (.ignoreCase, on) => { flags with ignoreCase := on }
  | (.multiLine, on) => { flags with multiLine := on }
  | (.dotAll, on) => { flags with dotAll := on }
  | (.unicode, on) => { flags with unicode := on }
  | (.crlf, on) => { flags with crlf := on }
  | (.lazy, on) => { flags with lazy := on }
  | (.extended, _) => flags

/-- The flags after a change. -/
def change (flags : PatternFlags) (change : FlagChange) : PatternFlags := change.foldl set flags

/-! ### Classes -/

/-- The set with the other cases of its letters, if case is ignored. -/
def fold (flags : PatternFlags) (s : CodeSet) : CodeSet :=
  if !flags.ignoreCase then s
  else if flags.unicode then CaseOrbit.close s
  else CaseOrbit.closeAscii s

/-- What is outside a set: all other characters, or all other bytes. -/
def complement (flags : PatternFlags) (s : CodeSet) : CodeSet :=
  if flags.unicode then s.compl else s.compl.inter (CodeSet.range 0 0xFF)

/-- A set that may be used: a set of bytes holds ASCII only. -/
def checked? (flags : PatternFlags) (s : CodeSet) : Option CodeSet :=
  if flags.unicode || s.isAscii then some s else none

/-- A set after case is settled and then negation. -/
def settle? (flags : PatternFlags) (negated : Bool) (s : CodeSet) : Option CodeSet :=
  let s := flags.fold s
  flags.checked? (if negated then flags.complement s else s)

/-- The characters of a class with an escape of one letter; case does not matter to them. -/
def letter? (flags : PatternFlags) (c : LetterClass) (negated : Bool) : Option CodeSet :=
  let s := if flags.unicode then c.codes else c.asciiCodes
  flags.checked? (if negated then flags.complement s else s)

/-- The characters with a property, which bytes do not have. -/
def property? (flags : PatternFlags) (p : PropertyName) (negated : Bool) : Option CodeSet :=
  if flags.unicode then p.codes?.bind (flags.settle? negated) else none

/-- The character of a literal; a byte beyond ASCII is none. -/
def literal? (flags : PatternFlags) (c : LiteralChar) : Option Char :=
  if !flags.unicode && c.byte && 0x80 ≤ c.char.toNat then none else some c.char

/-- The character of a literal in a class. -/
def classLiteral? (flags : PatternFlags) (c : LiteralChar) : Option Nat :=
  if flags.unicode || c.char.toNat < 0x80 then some c.char.toNat else none

end PatternFlags

mutual

/-- The characters of a class, before the case and the negation of the brackets around it. -/
def ClassExpr.codes? (flags : PatternFlags) : ClassExpr → Option CodeSet
  | .literal c => (flags.classLiteral? c).map fun code => CodeSet.range code code
  | .range a b => do pure (CodeSet.range (← flags.classLiteral? a) (← flags.classLiteral? b))
  | .ascii name negated => flags.settle? negated (asciiClassCodes name)
  | .letter c negated => flags.letter? c negated
  | .property p negated => flags.property? p negated
  | .bracket negated e => (e.codes? flags).bind (flags.settle? negated)
  | .union es => (ClassExpr.codesAll? flags es).map CodeSet.unions
  | .operation op a b => do
    let s := flags.fold (← a.codes? flags)
    let t := flags.fold (← b.codes? flags)
    match op with
    | .intersection => pure (s.inter t)
    | .difference => pure (s.diff t)
    | .symmetricDifference => pure (s.symmDiff t)

/-- The characters of each class of a list. -/
def ClassExpr.codesAll? (flags : PatternFlags) : List ClassExpr → Option (List CodeSet)
  | [] => some []
  | e :: es => do
    let s ← e.codes? flags
    let sets ← ClassExpr.codesAll? flags es
    pure (s :: sets)

end

namespace PatternFlags

/-- The place that an assertion asks for. -/
def look (flags : PatternFlags) (a : Assertion) : Look :=
  match a with
  | .startLine =>
    if !flags.multiLine then .start else if flags.crlf then .lineStartCrlf else .lineStart
  | .endLine => if !flags.multiLine then .finish else if flags.crlf then .lineEndCrlf else .lineEnd
  | .startText => .start
  | .endText => .finish
  | a =>
    .word a (if flags.unicode then LetterClass.word.codes else LetterClass.word.asciiCodes)

/-- The characters that the dot matches. Bytes have no dot. -/
def dot? (flags : PatternFlags) : Option CodeSet :=
  if !flags.unicode then none
  else if flags.dotAll then some CodeSet.all
  else if flags.crlf then some (CodeSet.ofRanges [(0x0A, 0x0A), (0x0D, 0x0D)]).compl
  else some (CodeSet.range 0x0A 0x0A).compl

end PatternFlags

mutual

/-- The meaning of a written pattern under some flags, and the flags that hold after it. -/
def PatternExpr.pattern? (flags : PatternFlags) : PatternExpr → Option (Pattern × PatternFlags)
  | .empty => some (.empty, flags)
  | .flags change => some (.empty, flags.change change)
  | .literal c => do
    let c ← flags.literal? c
    pure (.chars (flags.fold (CodeSet.singleton c)), flags)
  | .dot => (flags.dot?).map fun s => (.chars s, flags)
  | .assertion a => some (.look (flags.look a), flags)
  | .letter c negated => (flags.letter? c negated).map fun s => (.chars s, flags)
  | .property p negated => (flags.property? p negated).map fun s => (.chars s, flags)
  | .bracket negated e => do
    let s ← (e.codes? flags).bind (flags.settle? negated)
    pure (.chars s, flags)
  | .repetition least most marked e => do
    let (p, after) ← e.pattern? flags
    pure (.repeat least most (flags.lazy != marked) p, after)
  | .group kind e => do
    match kind with
    | .capture =>
      let (p, _) ← e.pattern? flags
      pure (.capture p, flags)
    | .plain change =>
      let (p, _) ← e.pattern? (flags.change change)
      pure (p, flags)
  | .alternation es => do
    let (ps, after) ← PatternExpr.patterns? flags es
    pure (.alt ps, after)
  | .concat es => do
    let (ps, after) ← PatternExpr.patterns? flags es
    pure (.seq ps, after)

/-- The meanings of a list of written patterns, each under the flags that hold after the one before
it. -/
def PatternExpr.patterns? (flags : PatternFlags) :
    List PatternExpr → Option (List Pattern × PatternFlags)
  | [] => some ([], flags)
  | e :: es => do
    let (p, flags) ← e.pattern? flags
    let (ps, flags) ← PatternExpr.patterns? flags es
    pure (p :: ps, flags)

end

end QuadWalk
