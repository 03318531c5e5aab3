/-!
# Double-precision numbers

A `Binary64` is a double-precision number known by its 64 bits, so that the two zeros and all the
not-a-numbers are different values and equality is decidable. Everything else is integer arithmetic.

## The model

The lower 63 bits, read as a natural number, are the *magnitude*. Finite numbers grow with their
magnitude, the magnitude `2047 * 2 ^ 52` is infinity, and what lies above is not a number. Orders
compare signed magnitudes; rounding produces the magnitude nearest to a fraction.
-/

namespace QuadWalk

/-- A double-precision number, told apart from every other one by its bits. -/
structure Binary64 where
  /-- Sign, exponent and fraction, from the highest bit to the lowest. -/
  bits : UInt64
  deriving DecidableEq, Hashable, Inhabited

namespace Binary64

/-- The weight of the sign bit, `2 ^ 63`. -/
def signWeight : Nat := 0x8000000000000000

/-- The weight of the lowest bit of the exponent, `2 ^ 52`. -/
def exponentWeight : Nat := 0x10000000000000

/-- The magnitude of the two infinities. -/
def infinityMagnitude : Nat := 2047 * exponentWeight

/-- The number with a given sign and magnitude. -/
def ofMagnitude (negative : Bool) (magnitude : Nat) : Binary64 :=
  ⟨UInt64.ofNat (magnitude + if negative then signWeight else 0)⟩

/-- All bits but the sign. -/
def magnitude (x : Binary64) : Nat := x.bits.toNat % signWeight

/-- The sign bit. -/
def isNegative (x : Binary64) : Bool := signWeight ≤ x.bits.toNat

/-- Whether the number is not a number. -/
def isNaN (x : Binary64) : Bool := infinityMagnitude < x.magnitude

/-- Whether the number is neither infinite nor a not-a-number. -/
def isFinite (x : Binary64) : Bool := x.magnitude < infinityMagnitude

/-- The positive not-a-number with an empty payload. -/
def nan : Binary64 := ofMagnitude false (infinityMagnitude + exponentWeight / 2)

/-- The infinity with a given sign. -/
def infinity (negative : Bool) : Binary64 := ofMagnitude negative infinityMagnitude

/-- The same magnitude with the other sign. -/
def negate (x : Binary64) : Binary64 := ofMagnitude (!x.isNegative) x.magnitude

/-! ### Orders -/

/-- The place of a number in the total order of bit patterns: negative numbers come first, largest
magnitude first, so that negative zero lies just below positive zero. -/
def totalKey (x : Binary64) : Int :=
  if x.isNegative then -1 - (x.magnitude : Int) else x.magnitude

/-- The place of a number in the order of real numbers, in which the two zeros are one. -/
def realKey (x : Binary64) : Int :=
  if x.isNegative then -(x.magnitude : Int) else x.magnitude

/-- The total order of all bit patterns. -/
def compareTotal (x y : Binary64) : Ordering := compare x.totalKey y.totalKey

/-- The order of real numbers; nothing is below, above or equal to a not-a-number. -/
def compareReal? (x y : Binary64) : Option Ordering :=
  if x.isNaN || y.isNaN then none else some (compare x.realKey y.realKey)

/-! ### Exact values -/

/-- A finite magnitude as `significand * 2 ^ exponent`. -/
def decode (magnitude : Nat) : Nat × Int :=
  if magnitude < exponentWeight then (magnitude, -1074)
  else (exponentWeight + magnitude % exponentWeight, (magnitude / exponentWeight : Nat) - 1075)

/-- A finite magnitude as an exact fraction. -/
def toRatio (magnitude : Nat) : Nat × Nat :=
  let (significand, exponent) := decode magnitude
  (significand * Nat.pow 2 exponent.toNat, Nat.pow 2 (-exponent).toNat)

/-! ### Rounding -/

/-- The integer nearest to `n / d`, a tie going to the even one. -/
def divRound (n d : Nat) : Nat :=
  let q := n / d
  let r := n % d
  if 2 * r < d then q else if d < 2 * r then q + 1 else q + q % 2

/-- The exponent `e` with `2 ^ e ≤ n / d < 2 ^ (e + 1)`, for positive `n` and `d`. -/
def floorLog (n d : Nat) : Int :=
  let e : Int := (n.log2 : Int) - d.log2
  if d * Nat.pow 2 e.toNat ≤ n * Nat.pow 2 (-e).toNat then e else e - 1

/-- The magnitude nearest to `n / d`, a tie going to the even one; too large a fraction gives
infinity. A significand that rounds up to the next power of two carries into the exponent by itself.
-/
def roundRatio (n d : Nat) : Nat :=
  if n = 0 then 0
  else
    let e := max (floorLog n d) (-1022)
    let shift := 52 - e
    let significand := divRound (n * Nat.pow 2 shift.toNat) (d * Nat.pow 2 (-shift).toNat)
    min infinityMagnitude ((e + 1022).toNat * exponentWeight + significand)

/-- The double nearest to an integer. -/
def ofInt (n : Int) : Binary64 := ofMagnitude (n < 0) (roundRatio n.natAbs 1)

/-- The double nearest to `digits * 10 ^ exponent` with a given sign. An exponent that is sure to
overflow or to underflow is not raised to its power. -/
def ofDecimal (negative : Bool) (digits : Nat) (exponent : Int) : Binary64 :=
  if digits = 0 then ofMagnitude negative 0
  else if 400 < exponent then infinity negative
  else if exponent < -(400 + (digits.log2 / 3 : Nat)) then ofMagnitude negative 0
  else
    ofMagnitude negative
      (roundRatio (digits * Nat.pow 10 exponent.toNat) (Nat.pow 10 (-exponent).toNat))

/-- The magnitude nearest to a product of finite magnitudes. -/
def mulMagnitude (x y : Nat) : Nat :=
  let (n, d) := toRatio x
  let (n', d') := toRatio y
  roundRatio (n * n') (d * d')

/-- The magnitude nearest to a quotient of finite magnitudes, the divisor being positive. -/
def divMagnitude (x y : Nat) : Nat :=
  let (n, d) := toRatio x
  let (n', d') := toRatio y
  roundRatio (n * d') (d * n')

end Binary64

end QuadWalk
