import QuadWalk.Numeric.Binary64

/-!
# JSON numbers

A number without a point and an exponent is an integer if it fits into 64 bits, with or without a
sign; every other number is a double. Its digits are read into a significand of 64 bits, later
digits are dropped, and the significand is multiplied or divided by a power of ten that is itself a
double. That rounds twice, so a long decimal may come out one step beside the nearest double. A
number that is too large for a double is out of range.
-/

namespace QuadWalk

/-- A JSON number that is in range. -/
inductive JsonNumber where
  | int (n : Int)
  | float (x : Binary64)
  deriving DecidableEq, Inhabited

namespace JsonNumber

/-- How many significands there are, `2 ^ 64`. -/
def significandCount : Nat := 0x10000000000000000

/-- Appends digits to a significand while there is such a one: the significand, how many digits it
took, and how many were left over. -/
def extend (significand : Nat) (cs : List Char) : Nat × Nat × Nat :=
  let rec go (significand used : Nat) : List Char → Nat × Nat × Nat
    | [] => (significand, used, 0)
    | c :: cs =>
      let next := 10 * significand + (c.toNat - '0'.toNat)
      if next < significandCount then go next (used + 1) cs else (significand, used, cs.length + 1)
  go significand 0 cs

/-- The magnitude of the double nearest to a power of ten. -/
def powerOfTen (exponent : Nat) : Nat := (Binary64.ofDecimal false 1 exponent).magnitude

/-- Scales a magnitude by a power of ten. Below `10 ^ -308` it is divided several times; after three
divisions nothing is left of any significand. -/
def scale (magnitude : Nat) (exponent : Int) : Nat → Option Nat
  | 0 => some magnitude
  | steps + 1 =>
    if exponent.natAbs ≤ 308 then
      if 0 ≤ exponent then
        let scaled := Binary64.mulMagnitude magnitude (powerOfTen exponent.toNat)
        if scaled = Binary64.infinityMagnitude then none else some scaled
      else some (Binary64.divMagnitude magnitude (powerOfTen exponent.natAbs))
    else if magnitude = 0 then some 0
    else if 0 ≤ exponent then none
    else scale (Binary64.divMagnitude magnitude (powerOfTen 308)) (exponent + 308) steps

/-- The double of a significand and an exponent. -/
def ofParts (negative : Bool) (significand : Nat) (exponent : Int) : Option JsonNumber :=
  (scale (Binary64.roundRatio significand 1) exponent 4).map fun magnitude =>
    float (Binary64.ofMagnitude negative magnitude)

/-- The number whose text has these parts: a sign, whole digits, digits after a point, and an
exponent with its sign. There is no answer if it is out of range. -/
def ofDigits (negative : Bool) (whole : List Char) (fraction : Option (List Char))
    (exponent : Option (Bool × List Char)) : Option JsonNumber :=
  let (significand, _, dropped) := extend 0 whole
  if dropped = 0 ∧ fraction = none ∧ exponent = none then
    if !negative then some (int significand)
    else if 0 < significand ∧ 2 * significand ≤ significandCount then some (int (-significand))
    else ofParts true significand 0
  else
    let (significand, places, _) := extend significand (fraction.getD [])
    let start : Int := (dropped : Int) - places
    match exponent with
    | none => ofParts negative significand start
    | some (down, digits) =>
      let size : Int := digits.foldl (fun n c => 10 * n + (c.toNat - '0'.toNat)) 0
      if 0x80000000 ≤ size then
        if significand ≠ 0 ∧ !down then none else some (float (Binary64.ofMagnitude negative 0))
      else ofParts negative significand (if down then start - size else start + size)

end JsonNumber

end QuadWalk
