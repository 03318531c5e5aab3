import QuadWalk.Text.CodeSet

/-!
# The bytes of sets of characters

As UTF-8, a character is a leading byte and up to three others of six bits each. A set of characters
is a list of *byte shapes*: ranges of bytes, one for each byte, that stand for all characters whose
bytes lie in these ranges. A range of characters falls into shapes where the length of its
characters changes and where its ends do not fill the range of a byte.
-/

namespace QuadWalk

/-- A closed range of bytes. -/
abbrev ByteRange := Nat × Nat

/-- Ranges of bytes, the leading one first. -/
abbrev ByteShape := List ByteRange

namespace ByteShape

/-- The shapes of the numbers from `low` to `high` whose lower bits are in a given number of further
bytes; the first byte holds the other bits and `base`. Shapes with lower bytes come first. -/
def ofNumbers (base : Nat) : Nat → Nat → Nat → List ByteShape
  | 0, low, high => [[(base + low, base + high)]]
  | others + 1, low, high =>
    let unit := Nat.pow 64 (others + 1)
    let below (top low high : Nat) : List ByteShape :=
      (ofNumbers 0x80 others low high).map ((base + top, base + top) :: ·)
    let firstTop := low / unit
    let lastTop := high / unit
    if firstTop = lastTop then below firstTop (low % unit) (high % unit)
    else
      let startsFull := low % unit = 0
      let endsFull := high % unit = unit - 1
      let firstFull := if startsFull then firstTop else firstTop + 1
      let afterFull := if endsFull then lastTop + 1 else lastTop
      (if startsFull then [] else below firstTop (low % unit) (unit - 1)) ++
        (if firstFull < afterFull then
          [(base + firstFull, base + afterFull - 1) :: List.replicate (others + 1) (0x80, 0xBF)]
        else []) ++
        (if endsFull then [] else below lastTop 0 (high % unit))

/-- The ranges of characters of one length: what the leading byte adds to its bits, the number of
other bytes, the first character and the last one. Halves of surrogate pairs are no characters. -/
def lengths : List (Nat × Nat × Nat × Nat) :=
  [(0x00, 0, 0x00, 0x7F), (0xC0, 1, 0x80, 0x7FF), (0xE0, 2, 0x800, 0xD7FF),
    (0xE0, 2, 0xE000, 0xFFFF), (0xF0, 3, 0x10000, lastCode)]

/-- The shapes of the characters from `low` to `high`. -/
def ofRange (low high : Nat) : List ByteShape :=
  lengths.flatMap fun (base, others, first, last) =>
    let low := max low first
    let high := min high last
    if low ≤ high then ofNumbers base others low high else []

end ByteShape

/-- The shapes of the characters of a set. -/
def CodeSet.byteShapes (s : CodeSet) : List ByteShape :=
  s.ranges.flatMap fun (low, high) => ByteShape.ofRange low high

end QuadWalk
