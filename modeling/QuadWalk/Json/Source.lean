import QuadWalk.Json.Number
import QuadWalk.Text.CodeSet

/-!
# JSON texts

`JsonSource.read?` reads a JSON text by the strict grammar: no comments, no comma before a closing
bracket, no control characters in strings, no leading zeros, nothing but blanks after the value.

## The model

Two faults need not matter, since a reader may skip the place where they stand: a number out of
range, and a string with half of a surrogate pair. The tree therefore marks such places with `none`,
and `isSound` tells whether a tree is free of them and not nested too deeply.
-/

namespace QuadWalk

/-- A JSON text, read but not yet understood. -/
inductive JsonSource where
  | null
  | bool (b : Bool)
  | number (n : Option JsonNumber)
  | string (s : Option String)
  | array (items : List JsonSource)
  | object (fields : List (Option String × JsonSource))
  deriving Inhabited

namespace JsonSource

/-! ### Tokens -/

/-- Skips blanks. -/
def skip (cs : List Char) : List Char :=
  cs.dropWhile fun c => c = ' ' || c = '\n' || c = '\t' || c = '\r'

/-- The code that four hexadecimal digits denote. -/
def code? (a b c d : Char) : Option Nat := do
  let digits ← [a, b, c, d].mapM CodeTable.hexDigit?
  pure (digits.foldl (fun n d => 16 * n + d) 0)

/-- The character that follows a backslash in a short escape. -/
def escape? : Char → Option Char
  | '"' => some '"'
  | '\\' => some '\\'
  | '/' => some '/'
  | 'b' => some '\x08'
  | 'f' => some '\x0c'
  | 'n' => some '\n'
  | 'r' => some '\r'
  | 't' => some '\t'
  | _ => none

/-- Joins the two halves of each surrogate pair; a half that is alone gives no character. -/
def joinPairs : List Nat → List (Option Char)
  | high :: low :: rest =>
    if 0xD800 ≤ high ∧ high < 0xDC00 ∧ 0xDC00 ≤ low ∧ low < 0xE000 then
      some (Char.ofNat (0x10000 + (high - 0xD800) * 0x400 + (low - 0xDC00))) :: joinPairs rest
    else if 0xD800 ≤ high ∧ high < 0xE000 then none :: joinPairs (low :: rest)
    else some (Char.ofNat high) :: joinPairs (low :: rest)
  | [code] => [if 0xD800 ≤ code ∧ code < 0xE000 then none else some (Char.ofNat code)]
  | [] => []

/-- The codes of a string up to its closing quote, and what follows it. -/
def stringCodes : List Char → Option (List Nat × List Char)
  | '"' :: rest => some ([], rest)
  | '\\' :: 'u' :: a :: b :: c :: d :: rest => do
    let code ← code? a b c d
    let (codes, rest) ← stringCodes rest
    pure (code :: codes, rest)
  | '\\' :: c :: rest => do
    let c ← escape? c
    let (codes, rest) ← stringCodes rest
    pure (c.toNat :: codes, rest)
  | c :: rest =>
    if c.toNat < 0x20 then none
    else do
      let (codes, rest) ← stringCodes rest
      pure (c.toNat :: codes, rest)
  | [] => none

/-- A string after its opening quote. -/
def string? (cs : List Char) : Option (Option String × List Char) := do
  let (codes, rest) ← stringCodes cs
  pure (((joinPairs codes).mapM id).map String.ofList, rest)

/-- A nonempty run of digits and what follows it. -/
def digits? (cs : List Char) : Option (List Char × List Char) :=
  let digits := cs.takeWhile Char.isDigit
  if digits.isEmpty then none else some (digits, cs.dropWhile Char.isDigit)

/-- A number and what follows it. -/
def number? (cs : List Char) : Option (Option JsonNumber × List Char) := do
  let (negative, cs) := match cs with
    | '-' :: cs => (true, cs)
    | cs => (false, cs)
  let (whole, cs) ← digits? cs
  if whole.length ≠ 1 ∧ whole.head? = some '0' then none
  let (fraction, cs) ← match cs with
    | '.' :: cs => (digits? cs).map fun (digits, cs) => (some digits, cs)
    | cs => some (none, cs)
  let (exponent, cs) ←
    if cs.head? = some 'e' ∨ cs.head? = some 'E' then
      let (down, cs) := match cs.drop 1 with
        | '-' :: cs => (true, cs)
        | '+' :: cs => (false, cs)
        | cs => (false, cs)
      (digits? cs).map fun (digits, cs) => (some (down, digits), cs)
    else some (none, cs)
  pure (JsonNumber.ofDigits negative whole fraction exponent, cs)

/-! ### Values -/

mutual

/-- A value and what follows it. Each nested value uses up one unit of fuel. -/
def value? : Nat → List Char → Option (JsonSource × List Char)
  | 0, _ => none
  | fuel + 1, cs =>
    match skip cs with
    | 'n' :: 'u' :: 'l' :: 'l' :: rest => some (null, rest)
    | 't' :: 'r' :: 'u' :: 'e' :: rest => some (bool true, rest)
    | 'f' :: 'a' :: 'l' :: 's' :: 'e' :: rest => some (bool false, rest)
    | '"' :: rest => (string? rest).map fun (s, rest) => (string s, rest)
    | '[' :: rest =>
      match skip rest with
      | ']' :: rest => some (array [], rest)
      | _ => (items? fuel rest).map fun (items, rest) => (array items, rest)
    | '\x7b' :: rest =>
      match skip rest with
      | '\x7d' :: rest => some (object [], rest)
      | _ => (fields? fuel rest).map fun (fields, rest) => (object fields, rest)
    | rest => (number? rest).map fun (n, rest) => (number n, rest)

/-- The items of an array up to its closing bracket, and what follows it. -/
def items? : Nat → List Char → Option (List JsonSource × List Char)
  | 0, _ => none
  | fuel + 1, cs => do
    let (item, rest) ← value? fuel cs
    match skip rest with
    | ',' :: rest =>
      let (items, rest) ← items? fuel rest
      pure (item :: items, rest)
    | ']' :: rest => pure ([item], rest)
    | _ => none

/-- The fields of an object up to its closing brace, and what follows it. -/
def fields? : Nat → List Char → Option (List (Option String × JsonSource) × List Char)
  | 0, _ => none
  | fuel + 1, cs =>
    match skip cs with
    | '"' :: rest => do
      let (name, rest) ← string? rest
      match skip rest with
      | ':' :: rest =>
        let (item, rest) ← value? fuel rest
        match skip rest with
        | ',' :: rest =>
          let (fields, rest) ← fields? fuel rest
          pure ((name, item) :: fields, rest)
        | '\x7d' :: rest => pure ([(name, item)], rest)
        | _ => none
      | _ => none
    | _ => none

end

/-- Reads a whole text as one value. -/
def read? (text : String) : Option JsonSource :=
  let cs := text.toList
  match value? (cs.length + 1) cs with
  | some (tree, rest) => if (skip rest).isEmpty then some tree else none
  | none => none

/-! ### Soundness -/

mutual

/-- Whether no number is out of range, every string is a text, and arrays and objects are nested
less deeply than the given depth. -/
def isSound : Nat → JsonSource → Bool
  | _, null => true
  | _, bool _ => true
  | _, number n => n.isSome
  | _, string s => s.isSome
  | depth, array items => 2 ≤ depth && allSound (depth - 1) items
  | depth, object fields => 2 ≤ depth && fieldsSound (depth - 1) fields

/-- Whether all items are sound. -/
def allSound : Nat → List JsonSource → Bool
  | _, [] => true
  | depth, item :: items => isSound depth item && allSound depth items

/-- Whether the names and the values of all fields are sound. -/
def fieldsSound : Nat → List (Option String × JsonSource) → Bool
  | _, [] => true
  | depth, (name, item) :: fields => name.isSome && isSound depth item && fieldsSound depth fields

end

/-- How deeply a text may be nested. -/
def depthLimit : Nat := 128

/-- The fields of an object under their names, if all names are texts. -/
def named? (fields : List (Option String × JsonSource)) : Option (List (String × JsonSource)) :=
  fields.mapM fun (name, item) => name.map (·, item)

end JsonSource

end QuadWalk
