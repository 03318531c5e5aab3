import QuadWalk.Pattern.Expr
import QuadWalk.Text.Blank
import QuadWalk.Text.Recent

/-!
# Reading patterns

`PatternExpr.read?` reads a pattern from its text. There is no answer for a text that is no pattern:
an unclosed group or class, a repetition of nothing, an unknown escape or flag, a reference back to
a group, a look around, two groups of one name, or nesting beyond the limit.

## The model

A reader takes the characters that are left and returns what it read with the rest. Readers that
call themselves on a rest take fuel, one unit for each character of the pattern. Groups and classes
that are still open are kept on a stack.
-/

namespace QuadWalk.PatternReader

/-! ### Blanks -/

/-- Skips blanks and comments; within a comment everything up to the line end is skipped. -/
def skipComments : Bool → List Char → List Char
  | _, [] => []
  | true, c :: cs => skipComments (c ≠ '\n') cs
  | false, c :: cs =>
    if Text.isBlank c then skipComments false cs
    else if c = '#' then skipComments true cs
    else c :: cs

/-- Skips blanks and comments if the pattern is written with them. -/
def skip (extended : Bool) (cs : List Char) : List Char :=
  if extended then skipComments false cs else cs

/-- The rest after a character and the blanks after it; there has to be some. -/
def next? (extended : Bool) (cs : List Char) : Option (List Char) :=
  match skip extended cs with
  | [] => none
  | cs => some cs

/-- The character that decides whether a minus sign makes a range: the next one after blanks and a
number sign. -/
def peek (extended : Bool) (cs : List Char) : Option Char :=
  if !extended then cs.head?
  else
    match cs.dropWhile Text.isBlank with
    | '#' :: rest => (rest.dropWhile Text.isBlank).head?.or cs.head?
    | rest => rest.head?.or cs.head?

/-! ### Numbers -/

/-- A run of digits, with blanks between them in an extended pattern, and the rest. -/
def digits (extended : Bool) : Nat → List Char → List Char × List Char
  | 0, cs => ([], cs)
  | fuel + 1, c :: cs =>
    if c.isDigit then
      let (ds, rest) := digits extended fuel (skip extended cs)
      (c :: ds, rest)
    else ([], c :: cs)
  | _ + 1, [] => ([], [])

/-- A decimal of at most 32 bits with blanks around it, and the rest. -/
def decimal? (extended : Bool) (cs : List Char) : Option (Nat × List Char) :=
  let (ds, rest) := digits extended cs.length (cs.dropWhile Text.isBlank)
  let n := ds.foldl (fun n c => 10 * n + (c.toNat - '0'.toNat)) 0
  if ds.isEmpty || 0x100000000 ≤ n then none else some (n, rest.dropWhile Text.isBlank)

/-- The character of a code, if it is one. -/
def charOfCode? (code : Nat) : Option Char :=
  if code.isValidChar then some (Char.ofNat code) else none

/-- A fixed number of hexadecimal digits: the value that they bring an earlier value to, and the
rest. -/
def hexDigits? (extended : Bool) : Nat → Nat → List Char → Option (Nat × List Char)
  | 0, value, cs => some (value, cs)
  | count + 1, value, c :: cs => do
    let d ← CodeTable.hexDigit? c
    hexDigits? extended count (16 * value + d) (skip extended cs)
  | _ + 1, _, [] => none

/-- Hexadecimal digits up to the closing brace: how many, their value and the rest. -/
def hexBraces? (extended : Bool) (count value : Nat) :
    Nat → List Char → Option (Nat × Nat × List Char)
  | 0, _ => none
  | fuel + 1, cs =>
    match skip extended cs with
    | [] => none
    | '\x7d' :: rest => some (count, value, skip extended rest)
    | c :: rest => do
      let d ← CodeTable.hexDigit? c
      hexBraces? extended (count + 1) (16 * value + d) fuel rest

/-- A character by its code, after `x`, `u` or `U`: in braces, or as two, four or eight digits. -/
def hexLiteral? (extended : Bool) (kind : Char) (cs : List Char) :
    Option (LiteralChar × List Char) := do
  let cs ← next? extended cs
  if cs.head? = some '\x7b' then
    let (count, code, rest) ← hexBraces? extended 0 0 cs.length (cs.drop 1)
    if count = 0 then none
    else (charOfCode? code).map fun c => (⟨c, false⟩, rest)
  else
    let count := if kind = 'x' then 2 else if kind = 'u' then 4 else 8
    let (code, rest) ← hexDigits? extended count 0 cs
    (charOfCode? code).map fun c => (⟨c, kind = 'x'⟩, rest)

/-! ### Escapes -/

/-- The characters with a meaning of their own, which a backslash takes away. -/
def isMeta (c : Char) : Bool :=
  ['\\', '.', '+', '*', '?', '(', ')', '|', '[', ']', '\x7b', '\x7d', '^', '$', '#', '&', '-',
    '~'].contains c

/-- Whether a backslash before the character leaves it as it is: every ASCII character but letters,
digits and angle brackets. -/
def isEscapable (c : Char) : Bool :=
  isMeta c || (c.toNat < 0x80 && !c.isAlphanum && c ≠ '<' && c ≠ '>')

/-- The characters with an escape of one letter. -/
def controlEscape? : Char → Option Char
  | 'a' => some '\x07'
  | 'f' => some '\x0c'
  | 't' => some '\t'
  | 'n' => some '\n'
  | 'r' => some '\r'
  | 'v' => some '\x0b'
  | _ => none

/-- The kinds of word boundaries that are named in braces. -/
def namedBoundary? (name : String) : Option Assertion :=
  if name = "start" then some .wordStart
  else if name = "end" then some .wordEnd
  else if name = "start-half" then some .wordStartHalf
  else if name = "end-half" then some .wordEndHalf
  else none

/-- The letters and minus signs of a name, with blanks between them in an extended pattern. -/
def boundaryName (extended : Bool) : Nat → List Char → List Char × List Char
  | 0, cs => ([], cs)
  | fuel + 1, c :: cs =>
    if c.isAlpha || c = '-' then
      let (name, rest) := boundaryName extended fuel (skip extended cs)
      (c :: name, rest)
    else ([], c :: cs)
  | _ + 1, [] => ([], [])

/-- What follows a word boundary: a name in braces makes it a special one, any other brace is left
for a repetition. -/
def boundary? (extended : Bool) (cs : List Char) : Option (Assertion × List Char) :=
  match cs with
  | '\x7b' :: rest => do
    let inner ← next? extended rest
    let (name, rest) := boundaryName extended inner.length inner
    if name.isEmpty then pure (.wordBoundary, cs)
    else
      match rest with
      | '\x7d' :: rest => (namedBoundary? (String.ofList name)).map fun a => (a, rest)
      | _ => none
  | _ => some (.wordBoundary, cs)

/-- The name of a property up to the closing brace. -/
def propertyText? (extended : Bool) : Nat → List Char → Option (List Char × List Char)
  | 0, _ => none
  | fuel + 1, cs =>
    match skip extended cs with
    | [] => none
    | '\x7d' :: rest => some ([], rest)
    | c :: rest => (propertyText? extended fuel rest).map fun (name, rest) => (c :: name, rest)

/-- Splits a text at the first place where `isSeparator` holds of the rest, dropping `width`
characters there. -/
def splitFirst? (width : Nat) (isSeparator : List Char → Bool) :
    List Char → Option (List Char × List Char)
  | [] => none
  | c :: cs =>
    if isSeparator (c :: cs) then some ([], (c :: cs).drop width)
    else (splitFirst? width isSeparator cs).map fun (a, b) => (c :: a, b)

/-- A property from the text in its braces, and whether an unequal sign negates it. -/
def propertyOf (text : List Char) : PropertyName × Bool :=
  let valued (parts : List Char × List Char) : PropertyName :=
    .valued (String.ofList parts.1) (String.ofList parts.2)
  match splitFirst? 2 (fun cs => cs.take 2 = ['!', '=']) text with
  | some parts => (valued parts, true)
  | none =>
    match splitFirst? 1 (fun cs => cs.head? = some ':') text with
    | some parts => (valued parts, false)
    | none =>
      match splitFirst? 1 (fun cs => cs.head? = some '=') text with
      | some parts => (valued parts, false)
      | none => (.plain (String.ofList text), false)

/-- A property after `p` or `P`: one letter, or a name in braces. -/
def property? (extended negated : Bool) (cs : List Char) : Option (PatternExpr × List Char) := do
  match ← next? extended cs with
  | '\x7b' :: rest =>
    let (text, rest) ← propertyText? extended (rest.length + 1) rest
    let (property, unequal) := propertyOf text
    pure (.property property (negated != unequal), rest)
  | '\\' :: _ => none
  | c :: rest => pure (.property (.plain (String.singleton c)) negated, skip extended rest)
  | [] => none

/-- What follows a backslash. -/
def escape? (extended : Bool) : List Char → Option (PatternExpr × List Char)
  | [] => none
  | c :: cs =>
    if c.isDigit then none
    else if c = 'x' ∨ c = 'u' ∨ c = 'U' then
      (hexLiteral? extended c cs).map fun (literal, rest) => (.literal literal, rest)
    else if c = 'p' ∨ c = 'P' then property? extended (c = 'P') cs
    else if c = 'd' ∨ c = 'D' then some (.letter .digit (c = 'D'), cs)
    else if c = 's' ∨ c = 'S' then some (.letter .space (c = 'S'), cs)
    else if c = 'w' ∨ c = 'W' then some (.letter .word (c = 'W'), cs)
    else if isEscapable c then some (.literal ⟨c, false⟩, cs)
    else if c = 'A' then some (.assertion .startText, cs)
    else if c = 'z' then some (.assertion .endText, cs)
    else if c = 'b' then (boundary? extended cs).map fun (a, rest) => (.assertion a, rest)
    else if c = 'B' then some (.assertion .notWordBoundary, cs)
    else if c = '<' then some (.assertion .wordStart, cs)
    else if c = '>' then some (.assertion .wordEnd, cs)
    else (controlEscape? c).map fun c => (.literal ⟨c, false⟩, cs)

/-! ### Bracketed classes -/

/-- What is open inside a class: a class with the parts of the one around it, latest first, or an
operator with its left side. -/
inductive ClassFrame where
  | bracket (outer : List ClassExpr) (negated : Bool)
  | operation (op : ClassOperator) (left : ClassExpr)

/-- The names of the ASCII classes. -/
def asciiNames : List String :=
  ["alnum", "alpha", "ascii", "blank", "cntrl", "digit", "graph", "lower", "print", "punct",
    "space", "upper", "word", "xdigit"]

/-- An ASCII class after its opening bracket. There is no answer if it is no such class, and the
bracket then opens a nested class. -/
def asciiClass? (cs : List Char) : Option (ClassExpr × List Char) :=
  match cs with
  | ':' :: cs =>
    let (negated, cs) := match cs with
      | '^' :: cs => (true, cs)
      | cs => (false, cs)
    let name := String.ofList (cs.takeWhile (· ≠ ':'))
    match cs.dropWhile (· ≠ ':') with
    | ':' :: ']' :: rest => if name ∈ asciiNames then some (.ascii name negated, rest) else none
    | _ => none
  | _ => none

/-- Minus signs at the start of a class, which stand for themselves: how many there are, and the
rest, which is not empty. -/
def leadingDashes? (extended : Bool) : Nat → List Char → Option (Nat × List Char)
  | 0, _ => none
  | fuel + 1, cs =>
    match cs with
    | '-' :: cs => do
      let (n, rest) ← leadingDashes? extended fuel (← next? extended cs)
      pure (n + 1, rest)
    | cs => some (0, cs)

/-- The start of a class after its opening bracket: whether it is negated, its first parts, latest
first, and the rest. A closing bracket that comes first stands for itself. -/
def openClass? (extended : Bool) (cs : List Char) : Option (Bool × List ClassExpr × List Char) := do
  let cs ← next? extended cs
  let (negated, cs) ← match cs with
    | '^' :: cs => (next? extended cs).map fun cs => (true, cs)
    | cs => some (false, cs)
  let (dashes, cs) ← leadingDashes? extended (cs.length + 1) cs
  let parts := List.replicate dashes (ClassExpr.literal ⟨'-', false⟩)
  match cs with
  | ']' :: rest =>
    if dashes = 0 then pure (negated, [.literal ⟨']', false⟩], ← next? extended rest)
    else pure (negated, parts, cs)
  | _ => pure (negated, parts, cs)

/-- One end of a range or a part of a class: an escape or a character. -/
def classItem? (extended : Bool) : List Char → Option (PatternExpr × List Char)
  | '\\' :: cs => escape? extended cs
  | c :: cs => some (.literal ⟨c, false⟩, cs)
  | [] => none

/-- What stands alone as a part of a class. -/
def toClassExpr? : PatternExpr → Option ClassExpr
  | .literal c => some (.literal c)
  | .letter c negated => some (.letter c negated)
  | .property p negated => some (.property p negated)
  | _ => none

/-- A range or a single part of a class, and the rest. -/
def classRange? (extended : Bool) (cs : List Char) : Option (ClassExpr × List Char) := do
  let (first, rest) ← classItem? extended cs
  match ← next? extended rest with
  | '-' :: after =>
    if peek extended after = some ']' ∨ peek extended after = some '-' then
      (toClassExpr? first).map fun e => (e, '-' :: after)
    else
      let (last, rest) ← classItem? extended (← next? extended after)
      match first, last with
      | .literal a, .literal b =>
        if a.char ≤ b.char then pure (.range a b, rest) else none
      | _, _ => none
  | rest => (toClassExpr? first).map fun e => (e, rest)

/-- The class operator that begins here. -/
def classOperator? : List Char → Option (ClassOperator × List Char)
  | '&' :: '&' :: rest => some (.intersection, rest)
  | '-' :: '-' :: rest => some (.difference, rest)
  | '~' :: '~' :: rest => some (.symmetricDifference, rest)
  | _ => none

/-- Applies the operator on top of the stack, if there is one, to its two sides. -/
def closeOperation (right : ClassExpr) : List ClassFrame → ClassExpr × List ClassFrame
  | .operation op left :: stack => (.operation op left right, stack)
  | stack => (right, stack)

/-- Reads a class up to the bracket that closes it, with the parts of the innermost open class,
latest first, and the stack of what is open around it. -/
def classLoop? (extended : Bool) (parts : List ClassExpr) (stack : List ClassFrame) :
    Nat → List Char → Option (PatternExpr × List Char)
  | 0, _ => none
  | fuel + 1, cs => do
    let cs ← next? extended cs
    match cs with
    | '[' :: rest =>
      match asciiClass? rest with
      | some (e, rest) => classLoop? extended (e :: parts) stack fuel rest
      | none =>
        let (negated, inner, rest) ← openClass? extended rest
        classLoop? extended inner (.bracket parts negated :: stack) fuel rest
    | ']' :: rest =>
      let (e, stack) := closeOperation (ClassExpr.ofParts parts.reverse) stack
      match stack with
      | [.bracket _ negated] => pure (.bracket negated e, rest)
      | .bracket outer negated :: stack =>
        classLoop? extended (.bracket negated e :: outer) stack fuel rest
      | _ => none
    | _ =>
      match classOperator? cs with
      | some (op, rest) =>
        let (e, stack) := closeOperation (ClassExpr.ofParts parts.reverse) stack
        classLoop? extended [] (.operation op e :: stack) fuel rest
      | none =>
        let (e, rest) ← classRange? extended cs
        classLoop? extended (e :: parts) stack fuel rest

/-- A bracketed class after its opening bracket. -/
def class? (extended : Bool) (cs : List Char) : Option (PatternExpr × List Char) := do
  let (negated, parts, rest) ← openClass? extended cs
  classLoop? extended parts [.bracket [] negated] (rest.length + 1) rest

/-! ### Groups and flags -/

/-- The flag of a letter. -/
def flag? : Char → Option PatternFlag
  | 'i' => some .ignoreCase
  | 'm' => some .multiLine
  | 's' => some .dotAll
  | 'U' => some .lazy
  | 'u' => some .unicode
  | 'R' => some .crlf
  | 'x' => some .extended
  | _ => none

/-- Flags up to a colon or a closing parenthesis: those after a minus sign, of which there is at
most one and not at the end, are turned off, and none comes twice. The rest begins with the colon or
the parenthesis. -/
def flags? (on : Bool) (seen : FlagChange) : List Char → Option (FlagChange × List Char)
  | [] => none
  | c :: cs =>
    if c = ':' ∨ c = ')' then some (seen.reverse, c :: cs)
    else if c = '-' then
      if !on then none
      else
        match cs with
        | ':' :: _ => none
        | ')' :: _ => none
        | _ => flags? false seen cs
    else do
      let flag ← flag? c
      if seen.any fun s => s.1 = flag then none else flags? on ((flag, on) :: seen) cs

/-- Whether the flags set a given flag, and how. -/
def flagState? (flag : PatternFlag) (change : FlagChange) : Option Bool :=
  (change.find? fun f => f.1 = flag).map Prod.snd

/-- Whether a character may begin the name of a group. -/
def isNameStart (c : Char) : Bool :=
  c = '_' || Property.alphabetic.mem c || Recent.alphabetic.mem c

/-- Whether a character may continue the name of a group. -/
def isNamePart (c : Char) : Bool :=
  isNameStart c || c = '.' || c = '[' || c = ']' || (Category.set "N").mem c ||
    Recent.numbers.mem c

/-- The name of a group, up to the angle bracket after it. -/
def groupName? (cs : List Char) : Option (String × List Char) :=
  let name := cs.takeWhile (· ≠ '>')
  match name, cs.dropWhile (· ≠ '>') with
  | first :: others, _ :: rest =>
    if isNameStart first && others.all isNamePart then some (String.ofList name, rest) else none
  | _, _ => none

/-- What an opening parenthesis begins: flags for what follows, or a group, perhaps with a name. -/
inductive Opening where
  | flags (change : FlagChange)
  | group (kind : GroupKind) (name : Option String)

/-- Reads what follows an opening parenthesis up to the content of the group. -/
def opening? (extended : Bool) (cs : List Char) : Option (Opening × List Char) :=
  match skip extended cs with
  | '?' :: '=' :: _ => none
  | '?' :: '!' :: _ => none
  | '?' :: '<' :: '=' :: _ => none
  | '?' :: '<' :: '!' :: _ => none
  | '?' :: 'P' :: '<' :: rest =>
    (groupName? rest).map fun (name, rest) => (.group .capture (some name), rest)
  | '?' :: '<' :: rest =>
    (groupName? rest).map fun (name, rest) => (.group .capture (some name), rest)
  | '?' :: rest => do
    let (change, rest) ← flags? true [] rest
    match rest with
    | ')' :: after =>
      if change = [] then none else pure (.flags change, after)
    | _ :: after => pure (.group (.plain change) none, after)
    | [] => none
  | rest => some (.group .capture none, rest)

/-! ### The whole pattern -/

/-- What is open around the current sequence: a group with the parts before it, latest first, and
whether the pattern around it is extended, or a choice with its branches so far, latest first. -/
inductive Frame where
  | group (outer : List PatternExpr) (kind : GroupKind) (extended : Bool)
  | alternation (branches : List PatternExpr)

/-- The state of reading: the parts of the current sequence, latest first, what is open around it,
the names of the groups so far, and whether the pattern is extended. -/
structure State where
  parts : List PatternExpr := []
  stack : List Frame := []
  names : List String := []
  extended : Bool := false

namespace State

/-- The current sequence. -/
def sequence (s : State) : PatternExpr := PatternExpr.ofParts s.parts.reverse

/-- The state with one more part. -/
def push (s : State) (e : PatternExpr) : State := { s with parts := e :: s.parts }

/-- Closes the current branch and begins another. -/
def branch (s : State) : State :=
  match s.stack with
  | .alternation branches :: stack =>
    { s with parts := [], stack := .alternation (s.sequence :: branches) :: stack }
  | stack => { s with parts := [], stack := .alternation [s.sequence] :: stack }

/-- The choice or sequence that ends here, and what is open around it. -/
def finish (s : State) : PatternExpr × List Frame :=
  match s.stack with
  | .alternation branches :: stack =>
    (PatternExpr.ofBranches (s.sequence :: branches).reverse, stack)
  | stack => (s.sequence, stack)

/-- Closes the innermost group. -/
def closeGroup? (s : State) : Option State :=
  match s.finish with
  | (e, .group outer kind extended :: stack) =>
    some { s with parts := .group kind e :: outer, stack := stack, extended := extended }
  | _ => none

/-- Begins a group or sets flags. -/
def openGroup? (s : State) : Opening → Option State
  | .flags change =>
    some { s.push (.flags change) with extended := (flagState? .extended change).getD s.extended }
  | .group kind name =>
    match name with
    | some name =>
      if name ∈ s.names then none
      else some (enter kind { s with names := name :: s.names })
    | none => some (enter kind s)
where
  /-- Puts the group on the stack. -/
  enter (kind : GroupKind) (s : State) : State :=
    let inner := match kind with
      | .capture => s.extended
      | .plain change => (flagState? .extended change).getD s.extended
    { s with parts := [], stack := .group s.parts kind s.extended :: s.stack, extended := inner }

/-- Repeats the latest part; there has to be one, and flags cannot be repeated. -/
def repeat? (s : State) (least : Nat) (most : Option Nat) (marked : Bool) : Option State :=
  match s.parts with
  | [] => none
  | .empty :: _ => none
  | .flags _ :: _ => none
  | e :: parts => some { s with parts := .repetition least most marked e :: parts }

end State

/-- A counted repetition after its opening brace: its bounds and the rest. -/
def bounds? (extended : Bool) (cs : List Char) : Option (Nat × Option Nat × List Char) := do
  let cs ← next? extended cs
  let (least, rest) ← decimal? extended cs
  let (most, rest) ← match rest with
    | ',' :: rest => do
      let rest ← next? extended rest
      match rest with
      | '\x7d' :: _ => pure (none, rest)
      | _ => (decimal? extended rest).map fun (most, rest) => (some most, rest)
    | rest => pure (some least, rest)
  match rest with
  | '\x7d' :: rest =>
    if least ≤ most.getD least then pure (least, most, skip extended rest) else none
  | _ => none

/-- Whether a question mark marks a repetition, and the rest. -/
def mark : List Char → Bool × List Char
  | '?' :: cs => (true, cs)
  | cs => (false, cs)

/-- Reads the rest of a pattern. -/
def loop? (s : State) : Nat → List Char → Option PatternExpr
  | 0, _ => none
  | fuel + 1, cs =>
    match skip s.extended cs with
    | [] =>
      match s.finish with
      | (e, []) => some e
      | _ => none
    | c :: cs =>
      if c = '(' then do
        let (opening, rest) ← opening? s.extended cs
        loop? (← s.openGroup? opening) fuel rest
      else if c = ')' then do loop? (← s.closeGroup?) fuel cs
      else if c = '|' then loop? s.branch fuel cs
      else if c = '[' then do
        let (e, rest) ← class? s.extended cs
        loop? (s.push e) fuel rest
      else if c = '?' ∨ c = '*' ∨ c = '+' then do
        let least := if c = '+' then 1 else 0
        let most := if c = '?' then some 1 else none
        let (marked, rest) := mark cs
        loop? (← s.repeat? least most marked) fuel rest
      else if c = '\x7b' then do
        if s.parts.isEmpty then none
        let (least, most, rest) ← bounds? s.extended cs
        let (marked, rest) := mark rest
        loop? (← s.repeat? least most marked) fuel rest
      else if c = '\\' then do
        let (e, rest) ← escape? s.extended cs
        loop? (s.push e) fuel rest
      else if c = '.' then loop? (s.push .dot) fuel cs
      else if c = '^' then loop? (s.push (.assertion .startLine)) fuel cs
      else if c = '$' then loop? (s.push (.assertion .endLine)) fuel cs
      else loop? (s.push (.literal ⟨c, false⟩)) fuel cs

end QuadWalk.PatternReader

namespace QuadWalk.PatternExpr

/-- How deeply a pattern may be nested. -/
def nestingLimit : Nat := 250

/-- The written pattern that a text denotes, if it denotes one. -/
def read? (text : List Char) : Option PatternExpr := do
  let e ← PatternReader.loop? {} (text.length + 1) text
  if e.nesting ≤ nestingLimit then some e else none

end QuadWalk.PatternExpr
