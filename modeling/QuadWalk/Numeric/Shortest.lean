import QuadWalk.Numeric.Binary64

/-!
# Shortest decimal text

A finite double is written with the fewest digits that still round to it, in positional notation and
never with an exponent.

## The model

The reals that round to a double form an interval around it, with its ends when the significand is
even. For one, two, three … digits, the two neighbours of the double on the decimal grid of that
many digits are tried; the first grid with a neighbour in the interval wins. Of two neighbours in
the interval the nearer one is taken, and of two equally near the upper one.
-/

namespace QuadWalk.Binary64

/-- The number of decimal digits of a natural number. -/
def digitCount (n : Nat) : Nat := (Nat.toDigits 10 n).length

/-- The exponent `e` with `10 ^ e ≤ n / d < 10 ^ (e + 1)`, for positive `n` and `d`. -/
def decimalExponent (n d : Nat) : Int :=
  if d ≤ n then (digitCount (n / d) : Int) - 1 else -(digitCount ((d + n - 1) / n - 1) : Int)

/-- The interval of reals that round to one double: its lower end, the double and its upper end over
one denominator, and whether the ends belong to it. -/
structure RoundingInterval where
  low : Nat
  value : Nat
  high : Nat
  denominator : Nat
  closed : Bool

/-- The interval around a positive finite magnitude. Just below a power of two the grid is twice as
fine, so the lower end is half as far away. -/
def roundingInterval (magnitude : Nat) : RoundingInterval :=
  let (significand, exponent) := decode magnitude
  let unit := Nat.pow 2 (exponent - 2).toNat
  let low := if significand = exponentWeight ∧ 2 * exponentWeight ≤ magnitude then 1 else 2
  { low := (4 * significand - low) * unit
    value := 4 * significand * unit
    high := (4 * significand + 2) * unit
    denominator := Nat.pow 2 (2 - exponent).toNat
    closed := significand % 2 = 0 }

/-- Whether `candidate * 10 ^ exponent` lies in the interval. -/
def RoundingInterval.contains (i : RoundingInterval) (candidate : Nat) (exponent : Int) : Bool :=
  let x := candidate * Nat.pow 10 exponent.toNat * i.denominator
  let scale := Nat.pow 10 (-exponent).toNat
  if i.closed then i.low * scale ≤ x ∧ x ≤ i.high * scale
  else i.low * scale < x ∧ x < i.high * scale

/-- The neighbour of the interval's double on the grid of multiples of `10 ^ exponent` that is to be
written, if one of the two lies in the interval. -/
def RoundingInterval.onGrid? (i : RoundingInterval) (exponent : Int) : Option Nat :=
  let n := i.value * Nat.pow 10 (-exponent).toNat
  let d := i.denominator * Nat.pow 10 exponent.toNat
  let below := n / d
  match i.contains below exponent, i.contains (below + 1) exponent with
  | true, true => some (if 2 * (n % d) < d then below else below + 1)
  | true, false => some below
  | false, true => some (below + 1)
  | false, false => none

/-- The first grid with a hit, from the grid of multiples of `10 ^ exponent` downward. -/
def RoundingInterval.firstGrid (i : RoundingInterval) : Nat → Int → Nat × Int
  | 0, exponent => (0, exponent)
  | tries + 1, exponent =>
    match i.onGrid? exponent with
    | some digits => (digits, exponent)
    | none => i.firstGrid tries (exponent - 1)

/-- The decimal `digits * 10 ^ exponent` with the fewest digits that reads back as a positive finite
magnitude. Seventeen digits always suffice. -/
def shortestDecimal (magnitude : Nat) : Nat × Int :=
  let i := roundingInterval magnitude
  i.firstGrid 18 (decimalExponent i.value i.denominator)

/-- The decimal `digits * 10 ^ exponent` in positional notation, without a point when it is whole
and without zeros at the end of its fraction. -/
def positional (digits : Nat) (exponent : Int) : String :=
  let text := Nat.toDigits 10 digits
  if 0 ≤ exponent then
    String.ofList (text ++ List.replicate exponent.toNat '0')
  else
    let places := (-exponent).toNat
    let padded := List.replicate (places + 1 - text.length) '0' ++ text
    let whole := padded.take (padded.length - places)
    let fraction := (padded.drop (padded.length - places)).reverse.dropWhile (· = '0') |>.reverse
    String.ofList (if fraction.isEmpty then whole else whole ++ '.' :: fraction)

/-- The text of a double: the fewest digits that read back, and the names of the infinities and of
the not-a-numbers, whose sign is not shown. -/
def toText (x : Binary64) : String :=
  if x.isNaN then "NaN"
  else
    let sign := if x.isNegative then "-" else ""
    if x.magnitude = infinityMagnitude then sign ++ "inf"
    else if x.magnitude = 0 then sign ++ "0"
    else
      let (digits, exponent) := shortestDecimal x.magnitude
      sign ++ positional digits exponent

end QuadWalk.Binary64
