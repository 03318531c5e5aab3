import Mathlib.Data.List.Induction
import Mathlib.Data.Nat.Digits.Defs
import QuadWalk.Proofs.Stripping
import QuadWalk.Value.Literal

/-!
# Integer literals

A literal whose datatype is one of integers comes to a number if its lexical form, without the
blanks around it, is a numeral of one that has 64 bits; otherwise it is kept as it is. What a
numeral denotes is said by the places of its digits (`Numeral.Denotes`), while reading goes through
them from the left and printing makes them from the right (`Numeral.int?_eq_some_iff`,
`Numeral.denotes_ofInt`). Nothing is lost at either end of the range: the text of every number is
read as this number (`Value.ofLiteral_integer`).
-/

namespace QuadWalk

namespace Numeral

variable {cs digits : List Char} {z : Int}

/-! ### What a numeral denotes -/

/-- At least one ASCII digit, and nothing else. -/
structure IsDecimal (digits : List Char) : Prop where
  nonempty : digits ≠ []
  digit : ∀ c ∈ digits, c.isDigit = true

/-- The number with some decimal digits: the last one counts once, and each other one ten times as
much as the next. -/
def decimalValue (digits : List Char) : Nat :=
  Nat.ofDigits 10 (digits.reverse.map fun c => c.toNat - '0'.toNat)

/-- **A numeral denotes an integer**: it is an optional sign and then the digits of its size, of
which the first ones may be zeros. -/
inductive Denotes : List Char → Int → Prop where
  | unsigned {digits : List Char} (h : IsDecimal digits) : Denotes digits (decimalValue digits)
  | positive {digits : List Char} (h : IsDecimal digits) :
      Denotes ('+' :: digits) (decimalValue digits)
  | negative {digits : List Char} (h : IsDecimal digits) :
      Denotes ('-' :: digits) (-decimalValue digits)

/-! ### Reading numerals -/

theorem decimalValue_append_singleton (digits : List Char) (c : Char) :
    decimalValue (digits ++ [c]) = 10 * decimalValue digits + (c.toNat - '0'.toNat) := by
  rw [decimalValue, List.reverse_append, List.reverse_singleton, List.singleton_append,
    List.map_cons, Nat.ofDigits_cons, decimalValue, Nat.add_comm]

/-- Going through the digits from the left gives each of them its weight. -/
theorem digitsValue_eq (digits : List Char) : digitsValue digits = decimalValue digits := by
  induction digits using List.reverseRecOn with
  | nil => rfl
  | append_singleton digits c ih =>
    rw [digitsValue] at ih ⊢
    rw [List.foldl_append, ih, decimalValue_append_singleton, List.foldl_cons, List.foldl_nil]

theorem isDecimal_iff :
    IsDecimal digits ↔ (digits.isEmpty || !digits.all Char.isDigit) = false := by
  constructor
  · intro h
    simpa [h.nonempty] using h.digit
  · intro h
    simp only [Bool.or_eq_false_iff, List.isEmpty_eq_false_iff, Bool.not_eq_false',
      List.all_eq_true] at h
    exact ⟨h.1, h.2⟩

/-- Digits do not begin with a sign. -/
theorem IsDecimal.splitSign (h : IsDecimal digits) : splitSign digits = (false, digits) := by
  cases digits with
  | nil => rfl
  | cons c digits =>
    have hdigit : c.isDigit = true := h.digit c List.mem_cons_self
    have hminus : c ≠ '-' := by
      rintro rfl
      exact absurd hdigit (by decide)
    have hplus : c ≠ '+' := by
      rintro rfl
      exact absurd hdigit (by decide)
    simp [Numeral.splitSign, hminus, hplus]

/-- **A text is read as an integer exactly if it is a numeral of it.** -/
theorem int?_eq_some_iff : int? cs = some z ↔ Denotes cs z := by
  constructor
  · intro h
    have hdecimal {rest : List Char} {value : Int}
        (hrest : (if rest.isEmpty || !rest.all Char.isDigit then none else some value) = some z) :
        IsDecimal rest ∧ value = z := by
      split at hrest
      · cases hrest
      · rename_i hvalid
        exact ⟨isDecimal_iff.2 (by simpa using hvalid), by simpa using hrest⟩
    unfold int? at h
    simp only [digitsValue_eq] at h
    unfold Numeral.splitSign at h
    split at h
    · obtain ⟨hrest, rfl⟩ := hdecimal h
      exact .negative hrest
    · obtain ⟨hrest, rfl⟩ := hdecimal h
      exact .positive hrest
    · obtain ⟨hrest, rfl⟩ := hdecimal h
      exact .unsigned hrest
  · intro h
    cases h with
    | unsigned h => simp [int?, h.splitSign, isDecimal_iff.1 h, digitsValue_eq]
    | positive h => simp [int?, Numeral.splitSign, isDecimal_iff.1 h, digitsValue_eq]
    | negative h => simp [int?, Numeral.splitSign, isDecimal_iff.1 h, digitsValue_eq]

/-- A text is read as a 64-bit integer exactly if it is a numeral of it. -/
theorem int64?_eq_some_iff {n : Int64} : int64? cs = some n ↔ Denotes cs n.toInt := by
  simp only [int64?, Option.bind_eq_some_iff, int?_eq_some_iff, Option.ite_none_right_eq_some,
    Int64.toInt_minValue, Int64.toInt_maxValue, Option.some.injEq]
  constructor
  · rintro ⟨z, hz, ⟨hlow, hhigh⟩, rfl⟩
    rwa [Int64.toInt_ofInt_of_le hlow (by omega)]
  · intro h
    exact ⟨n.toInt, h, ⟨n.le_toInt, by have := n.toInt_lt; omega⟩, n.ofInt_toInt⟩

/-! ### Printing numerals -/

theorem isDecimal_toDigits (n : Nat) : IsDecimal (Nat.toDigits 10 n) where
  nonempty := Nat.toDigits_ne_nil
  digit _ hc := Nat.isDigit_of_mem_toDigits (by decide) (by decide) hc

theorem decimalValue_toDigits (n : Nat) : decimalValue (Nat.toDigits 10 n) = n := by
  rw [← digitsValue_eq, digitsValue, ← Nat.ofDigitChars_eq_foldl, Nat.ofDigitChars_ten_toDigits]

/-- **The text of an integer is a numeral of it.** -/
theorem denotes_ofInt (z : Int) : Denotes (ofInt z).toList z := by
  have hdecimal := isDecimal_toDigits z.natAbs
  have hvalue := decimalValue_toDigits z.natAbs
  rw [ofInt, String.toList_ofList]
  by_cases hz : z < 0
  · have hdenotes := Denotes.negative hdecimal
    rw [hvalue, Int.ofNat_natAbs_of_nonpos (Int.le_of_lt hz), Int.neg_neg] at hdenotes
    rwa [if_pos hz]
  · have hdenotes := Denotes.unsigned hdecimal
    rw [hvalue, Int.natAbs_of_nonneg (Int.not_lt.1 hz)] at hdenotes
    rwa [if_neg hz]

/-! ### Blanks -/

theorem not_blank_of_isDigit {c : Char} (h : c.isDigit = true) : Text.blanks.mem c = false := by
  have hrange : 48 ≤ c.toNat ∧ c.toNat ≤ 57 := by
    simpa [Char.isDigit, UInt32.le_iff_toNat_le] using h
  refine Bool.eq_false_iff.2 fun hblank => ?_
  simp only [CodeSet.mem, CodeSet.contains, Text.blanks, List.any_cons, List.any_nil,
    Bool.or_eq_true, Bool.and_eq_true, decide_eq_true_eq, Bool.false_eq_true, or_false] at hblank
  omega

/-- There are no blanks in a numeral. -/
theorem Denotes.stripped (h : Denotes cs z) : Text.Stripped cs cs := by
  refine Text.stripped_of_not_blank fun c hc => ?_
  cases h with
  | unsigned h => exact not_blank_of_isDigit (h.digit c hc)
  | positive h | negative h =>
    rcases List.mem_cons.1 hc with rfl | hc
    · decide
    · exact not_blank_of_isDigit (h.digit c hc)

end Numeral

namespace Value

open Numeral

variable {lexical datatype : String} {z : Int}

/-- The lexical form of an integer: without the blanks around it, it is a numeral. -/
def IsInteger (lexical : String) (z : Int) : Prop :=
  ∃ core, Text.Stripped lexical.toList core ∧ Denotes core z

theorem isInteger_iff : IsInteger lexical z ↔ Denotes (Text.trim lexical.toList) z := by
  constructor
  · rintro ⟨core, hcore, h⟩
    rwa [Text.trim_eq_iff.2 hcore]
  · intro h
    exact ⟨_, Text.trim_eq_iff.1 rfl, h⟩

/-- What a literal comes to whose datatype is one of integers. -/
theorem ofLiteral_of_mem_integers (h : datatype ∈ Datatype.integers) (lexical : String) :
    ofLiteral lexical (some datatype) none =
      ((int64? (Text.trim lexical.toList)).map int).getD (typed lexical datatype) := by
  have hapart : ∀ d ∈ Datatype.integers, ¬ (d = Datatype.string ∨ d = Datatype.langString) := by
    decide +kernel
  rw [ofLiteral, ofTyped]
  simp only [if_neg (hapart datatype h), if_pos h]

/-- It comes to the integer that its lexical form denotes. -/
theorem ofLiteral_eq_int_iff (h : datatype ∈ Datatype.integers) {n : Int64} :
    ofLiteral lexical (some datatype) none = int n ↔ IsInteger lexical n.toInt := by
  rw [ofLiteral_of_mem_integers h, isInteger_iff, ← int64?_eq_some_iff]
  cases int64? (Text.trim lexical.toList) <;> simp

/-- Otherwise it is kept. -/
theorem ofLiteral_eq_typed (h : datatype ∈ Datatype.integers)
    (hnone : ∀ n : Int64, ¬ IsInteger lexical n.toInt) :
    ofLiteral lexical (some datatype) none = typed lexical datatype := by
  simp only [isInteger_iff, ← int64?_eq_some_iff] at hnone
  rw [ofLiteral_of_mem_integers h, Option.eq_none_iff_forall_ne_some.2 hnone]
  rfl

/-- **Integer literals are exact or kept.** Let the datatype of a literal be one of the three of
integers. The literal comes to an integer exactly if its lexical form, without the blanks around it,
is an optional sign and at least one ASCII digit that denote this integer, and it has 64 bits; if
there is no such integer, lexical form and datatype are kept as they are. So the text of each 64-bit
integer comes back to it. -/
theorem ofLiteral_integer (h : datatype ∈ Datatype.integers) (lexical : String) :
    (∀ z : Int, (∃ n : Int64, n.toInt = z ∧ ofLiteral lexical (some datatype) none = int n) ↔
      IsInteger lexical z ∧ -2 ^ 63 ≤ z ∧ z ≤ 2 ^ 63 - 1) ∧
    ((¬ ∃ z : Int, IsInteger lexical z ∧ -2 ^ 63 ≤ z ∧ z ≤ 2 ^ 63 - 1) →
      ofLiteral lexical (some datatype) none = typed lexical datatype) ∧
    ∀ n : Int64, ofLiteral (int n).identifier (some datatype) none = int n := by
  have hrange (n : Int64) : -2 ^ 63 ≤ n.toInt ∧ n.toInt ≤ 2 ^ 63 - 1 :=
    ⟨n.le_toInt, Int.le_sub_one_of_lt n.toInt_lt⟩
  refine ⟨fun z => ⟨?_, ?_⟩, fun hnone => ?_, fun n => ?_⟩
  · rintro ⟨n, rfl, hn⟩
    exact ⟨(ofLiteral_eq_int_iff h).1 hn, hrange n⟩
  · rintro ⟨hz, hlow, hhigh⟩
    have hn : (Int64.ofInt z).toInt = z := Int64.toInt_ofInt_of_le hlow (Int.lt_of_le_sub_one hhigh)
    exact ⟨.ofInt z, hn, (ofLiteral_eq_int_iff h).2 (by rwa [hn])⟩
  · exact ofLiteral_eq_typed h fun n hn => hnone ⟨n.toInt, hn, hrange n⟩
  · have hdenotes := denotes_ofInt n.toInt
    exact (ofLiteral_eq_int_iff h).2 ⟨_, hdenotes.stripped, hdenotes⟩

/-- The least 64-bit integer between blanks, with a zero in front, is read; one less is kept, and so
are a lone sign and a blank among the digits. -/
theorem ofLiteral_integer_least :
    Datatype.schema "long" ∈ Datatype.integers ∧
    ofLiteral "\u00a0-09223372036854775808 \u3000" (some (Datatype.schema "long")) none =
      int Int64.minValue ∧
    (∀ lexical ∈ ["-9223372036854775809", "+", "1 0"],
      ofLiteral lexical (some (Datatype.schema "long")) none =
        typed lexical (Datatype.schema "long")) ∧
    ofLiteral (int Int64.minValue).identifier (some (Datatype.schema "long")) none =
      int Int64.minValue := by
  have hlong : Datatype.schema "long" ∈ Datatype.integers := by decide
  refine ⟨hlong, ?_, fun lexical hlexical => ?_, (ofLiteral_integer hlong "").2.2 _⟩
  · obtain ⟨n, hn, hliteral⟩ := ((ofLiteral_integer hlong
      "\u00a0-09223372036854775808 \u3000").1 (-2 ^ 63)).2
      ⟨isInteger_iff.2 (int?_eq_some_iff.1 (by rw [Text.trim_eq]; decide +kernel)), by decide,
        by decide⟩
    rw [hliteral, Int64.toInt_inj.1 (hn.trans Int64.toInt_minValue.symm)]
  · refine (ofLiteral_integer hlong lexical).2.1 ?_
    rintro ⟨z, hz, hlow, -⟩
    rw [isInteger_iff, ← int?_eq_some_iff, Text.trim_eq] at hz
    have hread : ∀ lexical ∈ ["-9223372036854775809", "+", "1 0"],
        ∀ z ∈ int? ((lexical.toList.dropWhile Text.blanks.mem).reverse.dropWhile
          Text.blanks.mem).reverse, z < -2 ^ 63 := by
      decide +kernel
    exact absurd (hread lexical hlexical z hz) (Int.not_lt.2 hlow)

end Value

end QuadWalk
