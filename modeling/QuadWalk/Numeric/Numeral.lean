import QuadWalk.Numeric.Binary64

/-!
# Numerals

How integers and doubles are read from text: an optional sign, then ASCII digits. A double may also
have a point, an exponent, or be one of the names of infinity and of the not-a-number.
-/

namespace QuadWalk.Numeral

/-- Splits a sign from a numeral: whether it is a minus sign, and what follows. -/
def splitSign : List Char → Bool × List Char
  | '-' :: cs => (true, cs)
  | '+' :: cs => (false, cs)
  | cs => (false, cs)

/-- The natural number that a list of ASCII digits denotes. -/
def digitsValue (cs : List Char) : Nat :=
  cs.foldl (fun n c => 10 * n + (c.toNat - '0'.toNat)) 0

/-- The decimal text of an integer, with a minus sign if it is negative. -/
def ofInt (n : Int) : String :=
  let digits := Nat.toDigits 10 n.natAbs
  String.ofList (if n < 0 then '-' :: digits else digits)

/-- The decimal text of a natural number. -/
def ofNat (n : Nat) : String := String.ofList (Nat.toDigits 10 n)

/-- The integer that a text denotes: an optional sign and at least one ASCII digit. -/
def int? (cs : List Char) : Option Int :=
  let (negative, digits) := splitSign cs
  if digits.isEmpty || !digits.all Char.isDigit then none
  else some (if negative then -(digitsValue digits : Int) else digitsValue digits)

/-- The 64-bit integer that a text denotes, if it is in range. -/
def int64? (cs : List Char) : Option Int64 :=
  (int? cs).bind fun n =>
    if Int64.minValue.toInt ≤ n ∧ n ≤ Int64.maxValue.toInt then some (Int64.ofInt n) else none

/-- An unsigned decimal: whole digits, a point with more digits, an exponent. There is at least one
digit before the exponent and, if there is an exponent, one in it. The result is the digits without
the point and the power of ten that they are multiplied by. -/
def decimal? (cs : List Char) : Option (Nat × Int) :=
  let whole := cs.takeWhile Char.isDigit
  let rest := cs.dropWhile Char.isDigit
  let (fraction, rest) := match rest with
    | '.' :: rest => (rest.takeWhile Char.isDigit, rest.dropWhile Char.isDigit)
    | _ => ([], rest)
  if whole.isEmpty && fraction.isEmpty then none
  else
    let digits := digitsValue (whole ++ fraction)
    match rest with
    | [] => some (digits, -(fraction.length : Int))
    | c :: rest =>
      if c = 'e' ∨ c = 'E' then
        (int? rest).map fun exponent => (digits, exponent - fraction.length)
      else none

/-- The double that a text denotes. -/
def binary64? (cs : List Char) : Option Binary64 :=
  let (negative, unsigned) := splitSign cs
  let name := String.ofList (unsigned.map Char.toLower)
  if name = "inf" ∨ name = "infinity" then some (.infinity negative)
  else if name = "nan" then some (if negative then Binary64.nan.negate else .nan)
  else (decimal? unsigned).map fun (digits, exponent) => .ofDecimal negative digits exponent

end QuadWalk.Numeral
