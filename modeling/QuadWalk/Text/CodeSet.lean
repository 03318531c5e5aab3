/-!
# Sets of code points

A `CodeSet` is a set of code points kept as ranges in ascending order that neither overlap nor
touch, so that union, complement and membership are short walks. The same ranges are the form in
which the tables of character properties are written down.
-/

namespace QuadWalk

/-- The largest code point. -/
def lastCode : Nat := 0x10FFFF

/-- A set of code points, as closed ranges. -/
structure CodeSet where
  /-- The ranges, lowest first; a range that touches the next one is merged with it. -/
  ranges : List (Nat × Nat)
  deriving DecidableEq, Inhabited

namespace CodeSet

/-- Merges overlapping and touching ranges of a list ordered by lower ends. -/
def merge (range : Nat × Nat) : List (Nat × Nat) → List (Nat × Nat)
  | [] => [range]
  | next :: rest =>
    if next.1 ≤ range.2 + 1 then merge (range.1, max range.2 next.2) rest
    else range :: merge next rest

/-- The set of the codes in some ranges, given in any order. -/
def ofRanges (ranges : List (Nat × Nat)) : CodeSet :=
  match ranges.mergeSort (fun a b => a.1 ≤ b.1) with
  | [] => ⟨[]⟩
  | range :: rest => ⟨merge range rest⟩

/-- The empty set. -/
def empty : CodeSet := ⟨[]⟩

/-- All code points. -/
def all : CodeSet := ⟨[(0, lastCode)]⟩

/-- The set of the codes from `low` to `high`. -/
def range (low high : Nat) : CodeSet := ⟨[(low, high)]⟩

/-- The set of one character. -/
def singleton (c : Char) : CodeSet := range c.toNat c.toNat

/-- Whether a code belongs to the set. -/
def contains (s : CodeSet) (code : Nat) : Bool :=
  s.ranges.any fun (low, high) => low ≤ code && code ≤ high

/-- Whether a character belongs to the set. -/
def mem (s : CodeSet) (c : Char) : Bool := s.contains c.toNat

/-- How many codes the set has. -/
def size (s : CodeSet) : Nat := s.ranges.foldl (fun n (low, high) => n + (high + 1 - low)) 0

/-- The codes of the set in ascending order. -/
def codes (s : CodeSet) : List Nat :=
  s.ranges.flatMap fun (low, high) => List.range' low (high + 1 - low)

/-- The codes in one of the two sets. -/
def union (s t : CodeSet) : CodeSet := ofRanges (s.ranges ++ t.ranges)

/-- The codes in one of several sets. -/
def unions (sets : List CodeSet) : CodeSet := ofRanges (sets.flatMap ranges)

/-- The gaps between the ranges of a list, from `start` on. -/
def gaps (start : Nat) : List (Nat × Nat) → List (Nat × Nat)
  | [] => if start ≤ lastCode then [(start, lastCode)] else []
  | (low, high) :: rest =>
    if start < low then (start, low - 1) :: gaps (high + 1) rest else gaps (high + 1) rest

/-- The codes outside the set. -/
def compl (s : CodeSet) : CodeSet := ⟨gaps 0 s.ranges⟩

/-- The codes in both sets. -/
def inter (s t : CodeSet) : CodeSet := (s.compl.union t.compl).compl

/-- The codes in the first set and not in the second. -/
def diff (s t : CodeSet) : CodeSet := (s.compl.union t).compl

/-- The codes in exactly one of the two sets. -/
def symmDiff (s t : CodeSet) : CodeSet := (s.diff t).union (t.diff s)

/-- Whether all codes of the set are ASCII. -/
def isAscii (s : CodeSet) : Bool := s.ranges.all fun (_, high) => high < 0x80

end CodeSet

/-! ### Tables as text -/

namespace CodeTable

/-- The words of a table's text, which blanks and line ends separate. -/
def words (text : String) : List (List Char) :=
  let step (c : Char) : List (List Char) → List (List Char)
    | [] => if c.isWhitespace then [] else [[c]]
    | [] :: rest => if c.isWhitespace then [] :: rest else [c] :: rest
    | word :: rest => if c.isWhitespace then [] :: word :: rest else (c :: word) :: rest
  (text.toList.foldr step [[]]).filter (!·.isEmpty)

/-- The value of a hexadecimal digit, if the character is one. -/
def hexDigit? (c : Char) : Option Nat :=
  if c.isDigit then some (c.toNat - '0'.toNat)
  else if 'a' ≤ c ∧ c ≤ 'f' then some (c.toNat - 'a'.toNat + 10)
  else if 'A' ≤ c ∧ c ≤ 'F' then some (c.toNat - 'A'.toNat + 10)
  else none

/-- The number that a list of hexadecimal digits denotes; other characters count as zero. -/
def hex (cs : List Char) : Nat := cs.foldl (fun n c => 16 * n + (hexDigit? c).getD 0) 0

/-- The code points of a text of hexadecimal numbers. -/
def codes (text : String) : List Nat := (words text).map hex

/-- The set written as hexadecimal codes and ranges `low-high`. -/
def set (text : String) : CodeSet :=
  CodeSet.ofRanges <| (words text).map fun word =>
    match word.span (· ≠ '-') with
    | (low, _ :: high) => (hex low, hex high)
    | (code, []) => (hex code, hex code)

/-- A partition of the code points, written as alternating first codes and labels: a label holds
from its code up to the next one. -/
def partition (text : String) : List (Nat × String) :=
  let rec pair : List (List Char) → List (Nat × String)
    | start :: label :: rest => (hex start, String.ofList label) :: pair rest
    | _ => []
  pair (words text)

/-- The codes of a partition whose label satisfies a condition. -/
def select (table : List (Nat × String)) (p : String → Bool) : CodeSet :=
  let rec go : List (Nat × String) → List (Nat × Nat)
    | (start, label) :: rest =>
      let stop := match rest with
        | (next, _) :: _ => next - 1
        | [] => lastCode
      if p label then (start, stop) :: go rest else go rest
    | [] => []
  CodeSet.ofRanges (go table)

end CodeTable

end QuadWalk
