import QuadWalk.Proofs.TotalOrder

/-!
# How far the natural order is an order

Values of one comparison class that take part in the natural order can always be compared, and in
the other direction they compare the other way round. But the order is not transitive. Two integers
are compared as they are, an integer and a double through the double nearest to the integer, and
from `2 ^ 53` on several integers share a double: each of them is equal to it, and they are not
equal to one another.

`Value.Clash` says when that happens. Apart from it the natural order is a total preorder
(`Value.naturalLe_trans_iff`).
-/

namespace QuadWalk

namespace Value

variable {a b c : Value}

/-- Two values of one class that take part in the natural order. -/
structure Comparable (a b : Value) : Prop where
  left : a.isOrderable = true
  right : b.isOrderable = true
  sameClass : a.comparisonClass = b.comparisonClass

theorem Comparable.symm (h : Comparable a b) : Comparable b a :=
  ⟨h.right, h.left, h.sameClass.symm⟩

theorem Comparable.trans (h : Comparable a b) (h' : Comparable b c) : Comparable a c :=
  ⟨h.left, h'.right, h.sameClass.trans h'.sameClass⟩

/-- The first value is comparable with the second and not above it. -/
def NaturalLe (a b : Value) : Prop := ∃ o, a.naturalCmp b = .ok (some o) ∧ o ≠ .gt

/-- The values are comparable and equal in the natural order. -/
def NaturalEq (a b : Value) : Prop := a.naturalCmp b = .ok (some .eq)

/-! ### Comparing through doubles -/

/-- The text by which a value is compared. -/
def comparedText : Value → String
  | iri s | string s | lang s _ | typed s _ => s
  | blank _ | int _ | float _ | bool _ => ""

/-- The number by which a value is compared: of an integer, the place of its nearest double. -/
def comparedNumber : Value → Int
  | int n => (Binary64.ofInt n.toInt).realKey
  | float x => x.realKey
  | bool b => b.toInt
  | iri _ | blank _ | string _ | lang _ _ | typed _ _ => 0

/-- The natural order, but for integers that share a double. -/
def coarseCmp : Value → Value → Ordering :=
  compareLex (compareOn comparedText) (compareOn comparedNumber)

instance : Std.TransCmp coarseCmp :=
  inferInstanceAs (Std.TransCmp (compareLex (compareOn comparedText) (compareOn comparedNumber)))

/-- The answer of the natural order to comparable values. -/
def fineCmp : Value → Value → Ordering
  | int m, int n => compare m.toInt n.toInt
  | a, b => coarseCmp a b

theorem fineCmp_cases (a b : Value) :
    (∃ m n, a = int m ∧ b = int n) ∨ fineCmp a b = coarseCmp a b := by
  cases a <;> cases b <;> simp [fineCmp]

/-- **Comparable values have an answer.** -/
theorem naturalCmp_eq (h : Comparable a b) : a.naturalCmp b = .ok (some (fineCmp a b)) := by
  have hclass : a.classCmp b = some (fineCmp a b) := by
    obtain ⟨ha, hb, hab⟩ := h
    cases a <;> cases b <;> simp [comparisonClass] at hab <;>
      simp_all [isOrderable, classCmp, fineCmp, coarseCmp, compareLex, compareOn, comparedText,
        comparedNumber, text?, toBinary64?, Binary64.compareReal?, Binary64.isNaN_ofInt,
        compare_toInt]
  simp [naturalCmp, h.left, h.right, h.sameClass, hclass]

theorem fineCmp_swap (a b : Value) : fineCmp a b = (fineCmp b a).swap := by
  rcases fineCmp_cases a b with ⟨m, n, rfl, rfl⟩ | hab
  · exact Std.OrientedOrd.eq_swap
  rcases fineCmp_cases b a with ⟨n, m, rfl, rfl⟩ | hba
  · exact Std.OrientedOrd.eq_swap
  rw [hab, hba]
  exact Std.OrientedCmp.eq_swap

/-- Rounding does not turn two integers round. -/
theorem coarseCmp_ne_gt (h : fineCmp a b ≠ .gt) : coarseCmp a b ≠ .gt := by
  rcases fineCmp_cases a b with ⟨m, n, rfl, rfl⟩ | heq
  · have hle : m.toInt ≤ n.toInt := by
      rw [fineCmp, ne_eq, Int.compare_eq_gt] at h
      omega
    have hmono := Binary64.realKey_ofInt_mono hle
    simp only [coarseCmp, compareLex, compareOn, comparedText, comparedNumber, Std.compare_self,
      Ordering.eq_then, ne_eq, Int.compare_eq_gt]
    omega
  · rwa [← heq]

theorem naturalLe_iff (h : Comparable a b) : NaturalLe a b ↔ fineCmp a b ≠ .gt := by
  simp [NaturalLe, naturalCmp_eq h]

theorem naturalEq_iff (h : Comparable a b) : NaturalEq a b ↔ fineCmp a b = .eq := by
  simp [NaturalEq, naturalCmp_eq h]

/-! ### Integers that share a double -/

/-- Two integers, the first above the last, that are rounded to one number, and a double that is
that number. -/
def Clash (a b c : Value) : Prop :=
  ∃ m x n, a = int m ∧ b = float x ∧ c = int n ∧ n < m ∧
    (Binary64.ofInt m.toInt).realKey = x.realKey ∧ (Binary64.ofInt n.toInt).realKey = x.realKey

/-- Only integers of `2 ^ 53` or more in size clash. -/
theorem Clash.size (h : Clash a b c) :
    ∃ m n, a = int m ∧ c = int n ∧ (2 ^ 53 ≤ n.toInt ∨ m.toInt ≤ -2 ^ 53) := by
  obtain ⟨m, x, n, rfl, -, rfl, hlt, hm, hn⟩ := h
  refine ⟨m, n, rfl, rfl, ?_⟩
  refine Decidable.byContradiction fun hsmall => ?_
  have hstrict := Binary64.realKey_ofInt_lt (Int64.lt_iff_toInt_lt.1 hlt) (by omega) (by omega)
  omega

theorem Clash.fineCmp_eq (h : Clash a b c) : fineCmp a c = .gt := by
  obtain ⟨m, x, n, rfl, -, rfl, hlt, -, -⟩ := h
  exact Int.compare_eq_gt.2 (Int64.lt_iff_toInt_lt.1 hlt)

theorem coarseCmp_trans (hab : coarseCmp a b ≠ .gt) (hbc : coarseCmp b c ≠ .gt) :
    coarseCmp a c ≠ .gt :=
  Ordering.isLE_iff_ne_gt.1 <|
    Std.TransCmp.isLE_trans (Ordering.isLE_iff_ne_gt.2 hab) (Ordering.isLE_iff_ne_gt.2 hbc)

/-- Among numbers, the order through doubles is that of the doubles. -/
theorem comparedNumber_le (ha : a.comparedText = "") (hb : b.comparedText = "")
    (h : coarseCmp a b ≠ .gt) : a.comparedNumber ≤ b.comparedNumber := by
  simp only [coarseCmp, compareLex, compareOn, ha, hb, Std.compare_self, Ordering.eq_then, ne_eq,
    Int.compare_eq_gt] at h
  omega

/-- What stands between two integers in the wrong order is a double that both are rounded to. -/
theorem clash_of_between {m n : Int64} (h : Comparable (int m) b) (hmb : fineCmp (int m) b ≠ .gt)
    (hbn : fineCmp b (int n) ≠ .gt) (hlt : n < m) : Clash (int m) b (int n) := by
  have hlt' : n.toInt < m.toInt := Int64.lt_iff_toInt_lt.1 hlt
  cases b with
  | int k =>
    simp only [fineCmp, ne_eq, Int.compare_eq_gt] at hmb hbn
    omega
  | float x =>
    have hmx := comparedNumber_le rfl rfl (coarseCmp_ne_gt hmb)
    have hxn := comparedNumber_le rfl rfl (coarseCmp_ne_gt hbn)
    have hmono := Binary64.realKey_ofInt_mono (Int.le_of_lt hlt')
    simp only [comparedNumber] at hmx hxn
    exact ⟨m, x, n, rfl, rfl, rfl, hlt, by omega, by omega⟩
  | iri s | blank s | string s | lang s l | bool p | typed s d => cases h.sameClass

/-- **The natural order is transitive but for clashes.** -/
theorem fineCmp_trans_iff (h : Comparable a b) (hab : fineCmp a b ≠ .gt)
    (hbc : fineCmp b c ≠ .gt) : fineCmp a c ≠ .gt ↔ ¬ Clash a b c := by
  constructor
  · intro hac hclash
    exact hac hclash.fineCmp_eq
  · intro hclash
    rcases fineCmp_cases a c with ⟨m, n, rfl, rfl⟩ | heq
    · rw [fineCmp, ne_eq, Int.compare_eq_gt]
      intro hlt
      exact hclash (clash_of_between h hab hbc (Int64.lt_iff_toInt_lt.2 hlt))
    · rw [heq]
      exact coarseCmp_trans (coarseCmp_ne_gt hab) (coarseCmp_ne_gt hbc)

/-- **The natural order is a total preorder but for clashes**: two comparable values have an answer,
and in the other direction the reverse one; of two steps that do not go down, the way from the first
value to the last does not go down, either, exactly if the three do not clash; and so equality is
transitive exactly where they clash in neither direction. Only integers of `2 ^ 53` or more in size
clash. -/
theorem naturalLe_trans_iff (hab : Comparable a b) (hbc : Comparable b c) :
    (∃ o, a.naturalCmp b = .ok (some o) ∧ b.naturalCmp a = .ok (some o.swap)) ∧
    (NaturalLe a b → NaturalLe b c → (NaturalLe a c ↔ ¬ Clash a b c)) ∧
    (NaturalEq a b → NaturalEq b c → (NaturalEq a c ↔ ¬ Clash a b c ∧ ¬ Clash c b a)) ∧
    (Clash a b c → ∃ m n, a = int m ∧ c = int n ∧ (2 ^ 53 ≤ n.toInt ∨ m.toInt ≤ -2 ^ 53)) := by
  refine ⟨?_, ?_, ?_, Clash.size⟩
  · exact ⟨fineCmp a b, naturalCmp_eq hab, by rw [naturalCmp_eq hab.symm, fineCmp_swap b a]⟩
  · rw [naturalLe_iff hab, naturalLe_iff hbc, naturalLe_iff (hab.trans hbc)]
    exact fineCmp_trans_iff hab
  · rw [naturalEq_iff hab, naturalEq_iff hbc, naturalEq_iff (hab.trans hbc)]
    intro hab' hbc'
    have hup := fineCmp_trans_iff (c := c) hab (by simp [hab']) (by simp [hbc'])
    have hdown := fineCmp_trans_iff (c := a) hbc.symm (by simp [fineCmp_swap c b, hbc'])
      (by simp [fineCmp_swap b a, hab'])
    rw [← hup, ← hdown, fineCmp_swap c a]
    cases fineCmp a c <;> simp

/-- The integer `2 ^ 53`. -/
def sharedLower : Value := int 0x20000000000000

/-- The integer after it, which is rounded down to it. -/
def sharedUpper : Value := int 0x20000000000001

/-- The double of both. -/
def sharedDouble : Value := float (.ofInt 0x20000000000000)

theorem comparable_shared :
    Comparable sharedLower sharedDouble ∧ Comparable sharedDouble sharedUpper :=
  ⟨⟨rfl, by decide +kernel, rfl⟩, ⟨by decide +kernel, rfl, rfl⟩⟩

theorem fineCmp_shared :
    fineCmp sharedLower sharedDouble = .eq ∧ fineCmp sharedDouble sharedUpper = .eq := by
  decide +kernel

/-- Upward the shared double is passed, downward it is a clash. -/
theorem naturalLe_trans_iff_shared :
    (NaturalLe sharedLower sharedDouble ∧ NaturalLe sharedDouble sharedUpper ∧
      ¬ Clash sharedLower sharedDouble sharedUpper ∧ NaturalLe sharedLower sharedUpper) ∧
    NaturalLe sharedUpper sharedDouble ∧ NaturalLe sharedDouble sharedLower ∧
      Clash sharedUpper sharedDouble sharedLower ∧ ¬ NaturalLe sharedUpper sharedLower := by
  obtain ⟨hl, hu⟩ := comparable_shared
  obtain ⟨hle, heu⟩ := fineCmp_shared
  have hup : ¬ Clash sharedLower sharedDouble sharedUpper := by
    rintro ⟨m, x, n, hm, -, hn, hlt, -, -⟩
    cases hm
    cases hn
    exact absurd hlt (by decide)
  have hdown : Clash sharedUpper sharedDouble sharedLower :=
    ⟨_, _, _, rfl, rfl, rfl, by decide, by decide +kernel, by decide +kernel⟩
  have h₁ : NaturalLe sharedLower sharedDouble := (naturalLe_iff hl).2 (by simp [hle])
  have h₂ : NaturalLe sharedDouble sharedUpper := (naturalLe_iff hu).2 (by simp [heu])
  have h₃ : NaturalLe sharedUpper sharedDouble :=
    (naturalLe_iff hu.symm).2 (by simp [fineCmp_swap sharedUpper, heu])
  have h₄ : NaturalLe sharedDouble sharedLower :=
    (naturalLe_iff hl.symm).2 (by simp [fineCmp_swap sharedDouble, hle])
  refine ⟨⟨h₁, h₂, hup, ?_⟩, h₃, h₄, hdown, ?_⟩
  · exact ((naturalLe_trans_iff hl hu).2.1 h₁ h₂).2 hup
  · intro hle
    exact ((naturalLe_trans_iff hu.symm hl.symm).2.1 h₃ h₄).1 hle hdown

/-- Two integers can be equal to one double and not to one another. -/
theorem not_naturalLe_trans :
    ¬ ∀ a b c : Value, Comparable a b → Comparable b c → NaturalLe a b → NaturalLe b c →
      NaturalLe a c := by
  intro h
  obtain ⟨hl, hu⟩ := comparable_shared
  obtain ⟨hle, heu⟩ := fineCmp_shared
  have hlu : NaturalLe sharedUpper sharedLower :=
    h _ _ _ hu.symm hl.symm ((naturalLe_iff hu.symm).2 (by simp [fineCmp_swap sharedUpper, heu]))
      ((naturalLe_iff hl.symm).2 (by simp [fineCmp_swap sharedDouble, hle]))
  rw [naturalLe_iff (hu.symm.trans hl.symm)] at hlu
  exact hlu (by decide)

end Value

end QuadWalk
