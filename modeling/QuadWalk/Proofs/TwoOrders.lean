import QuadWalk.Proofs.Agreement
import QuadWalk.Proofs.NaturalOrder

/-!
# The two orders of values do not contradict each other

Results are sorted by the total order, and comparisons ask the natural one. Both look at the same
texts and numbers, but not in the same way: the natural order does not tell the two zeros apart, nor
one text in several languages, nor an integer from the double that it is rounded to. The total order
does, and so it refines the natural one (`Value.fineCmp_then_totalCmp`): to compare two values
naturally first changes nothing.

There is one exception. A text in a language and one without are of one comparison class, but of
different forms, and the total order puts the form first.

What is sorted never descends in the natural order, but for such texts
(`Value.naturalCmp_totalCmp_agree`).
-/

namespace QuadWalk

/-! ### Doubles -/

namespace Binary64

variable {x y : Binary64}

/-- A smaller number has a smaller place in the total order. -/
theorem totalKey_lt_of_realKey_lt (h : x.realKey < y.realKey) : x.totalKey < y.totalKey := by
  unfold realKey at h
  unfold totalKey
  by_cases hx : x.isNegative = true
  · by_cases hy : y.isNegative = true
    · simp only [if_pos hx, if_pos hy] at h ⊢
      omega
    · simp only [if_pos hx, if_neg hy] at h ⊢
      omega
  · by_cases hy : y.isNegative = true
    · simp only [if_neg hx, if_pos hy] at h
      omega
    · simp only [if_neg hx, if_neg hy] at h ⊢
      exact h

/-- Before the places of two doubles are compared, their numbers may be. -/
theorem then_compareTotal (x y : Binary64) :
    (compare x.realKey y.realKey).then (x.compareTotal y) = x.compareTotal y := by
  rcases Int.lt_trichotomy x.realKey y.realKey with h | h | h
  · have hlt := totalKey_lt_of_realKey_lt h
    rw [compareTotal, Int.compare_eq_lt.2 h, Int.compare_eq_lt.2 hlt]
    rfl
  · rw [h, Std.compare_self]
    rfl
  · have hgt := totalKey_lt_of_realKey_lt h
    rw [compareTotal, Int.compare_eq_gt.2 h, Int.compare_eq_gt.2 hgt]
    rfl

end Binary64

namespace Value

variable {a b : Value}

/-! ### Refining the natural order -/

/-- Two texts, one in a language and one without. -/
def MixedTexts : Value → Value → Prop
  | string _, lang _ _ | lang _ _, string _ => True
  | _, _ => False

/-- Values of one comparison class have one form, but for mixed texts. -/
theorem Comparable.rank_eq (h : Comparable a b) (hmixed : ¬ MixedTexts a b) : a.rank = b.rank := by
  have hclass := h.sameClass
  cases a <;> cases b <;> simp_all [comparisonClass, MixedTexts, rank]

/-- **The total order refines the natural one** within a form: it decides as that does wherever that
decides. -/
theorem fineCmp_then_totalCmp (h : Comparable a b) (hrank : a.rank = b.rank) :
    (fineCmp a b).then (totalCmp a b) = totalCmp a b := by
  have hclass := h.sameClass
  cases a <;> cases b <;> simp [rank] at hrank <;> simp [comparisonClass] at hclass
  case typed.typed =>
    subst hclass
    simp [fineCmp, coarseCmp, compareLex, compareOn, comparedText, comparedNumber, totalCmp, rank]
  all_goals
    simp [fineCmp, coarseCmp, compareLex, compareOn, comparedText, comparedNumber, totalCmp, rank,
      compare_toInt, Binary64.then_compareTotal, ← Ordering.then_assoc]

section Agree

variable (h : Comparable a b) (hmixed : ¬ MixedTexts a b)

include h hmixed

theorem totalCmp_eq_lt (hlt : a.naturalCmp b = .ok (some .lt)) : totalCmp a b = .lt := by
  have hfine : fineCmp a b = .lt := by simpa [naturalCmp_eq h] using hlt
  rw [← fineCmp_then_totalCmp h (h.rank_eq hmixed), hfine]
  rfl

/-- What does not come after another value is not naturally greater. -/
theorem fineCmp_ne_gt (hle : a.totalLe b = true) : fineCmp a b ≠ .gt := by
  intro hgt
  have htotal : totalCmp a b = .gt := by
    rw [← fineCmp_then_totalCmp h (h.rank_eq hmixed), hgt]
    rfl
  rw [totalLe, htotal] at hle
  cases hle

theorem naturalCmp_of_totalCmp_lt (hlt : totalCmp a b = .lt) :
    a.naturalCmp b = .ok (some .lt) ∨ a.naturalCmp b = .ok (some .eq) := by
  have hne : fineCmp a b ≠ .gt := fineCmp_ne_gt h hmixed (by rw [totalLe, hlt]; rfl)
  rw [naturalCmp_eq h]
  cases hfine : fineCmp a b with
  | lt => exact .inl rfl
  | eq => exact .inr rfl
  | gt => exact absurd hfine hne

end Agree

/-! ### Sorted rows -/

/-- The values of sorted rows ascend. If there is an error, there are no rows. -/
theorem exists_values_of_order (g : Graph) (items : Items) :
    ∃ values : List Value,
      (Items.order g items).rows.map (g.valueAt ·.position) = values.map .ok ∧
        values.Pairwise fun v w => v.totalLe w = true := by
  cases hv : items.traverse (Items.withValue g) with
  | error e =>
    have hnone : (Items.order g items).rows = [] := by
      rw [Items.order, hv]
      rfl
    exact ⟨[], by rw [hnone]; rfl, .nil⟩
  | ok valued =>
    obtain ⟨rows, hrows⟩ : ∃ rows, (Items.order g items).Lists rows := by
      rw [Items.order, hv]
      exact ⟨_, Items.lists_ofRows_iff.2 rfl⟩
    obtain ⟨-, -, -, values, hvalues, hsorted⟩ := Items.exists_of_lists_order hrows
    exact ⟨values, by rw [hrows.rows_eq, hvalues], hsorted⟩

/-- **The two orders do not contradict each other.** Take two values of one comparison class that
take part in the natural order, and not one text in a language and one without. If the first is
naturally less, then it comes first in the total order; and if it comes first there, then it is
naturally less or equal. So the rows that are sorted on any graph have values none of which is
naturally greater than a later one, again but for such texts. -/
theorem naturalCmp_totalCmp_agree :
    (∀ a b : Value, Comparable a b → ¬ MixedTexts a b →
      (a.naturalCmp b = .ok (some .lt) → totalCmp a b = .lt) ∧
      (totalCmp a b = .lt →
        a.naturalCmp b = .ok (some .lt) ∨ a.naturalCmp b = .ok (some .eq))) ∧
    ∀ (g : Graph) (p : Plan) (anchors : Anchors), ∃ values : List Value,
      ((Plan.order p).items g anchors).rows.map (g.valueAt ·.position) = values.map .ok ∧
      values.Pairwise fun v w => Comparable v w → ¬ MixedTexts v w →
        v.naturalCmp w ≠ .ok (some .gt) := by
  refine ⟨fun a b h hmixed => ?_, fun g p anchors => ?_⟩
  · exact ⟨totalCmp_eq_lt h hmixed, naturalCmp_of_totalCmp_lt h hmixed⟩
  · rw [Plan.items]
    obtain ⟨values, hvalues, hsorted⟩ := exists_values_of_order g (p.items g anchors)
    refine ⟨values, hvalues, hsorted.imp fun {v w} hle h hmixed hgt => ?_⟩
    exact fineCmp_ne_gt h hmixed hle (by simpa [naturalCmp_eq h] using hgt)

/-- Of a text in a language and a larger one without, the natural order has the first one first, and
the total order the second one. -/
example : naturalCmp (lang "a" "en") (string "b") = .ok (some .lt) ∧
    totalCmp (lang "a" "en") (string "b") = .gt := by
  decide +kernel

/-- The double after `2 ^ 53`. -/
def nextDouble : Value := float (.ofInt 0x20000000000002)

/-- The negative zero. -/
def negativeZero : Value := float (.ofMagnitude true 0)

/-- Naturally, `2 ^ 53 + 1` is less than the next double, and the negative zero is not less than the
integer zero; the total order puts the first of each pair first. -/
theorem naturalCmp_totalCmp_agree_zero :
    (Comparable sharedUpper nextDouble ∧ ¬ MixedTexts sharedUpper nextDouble ∧
      sharedUpper.naturalCmp nextDouble = .ok (some .lt) ∧
      totalCmp sharedUpper nextDouble = .lt) ∧
    Comparable negativeZero (int 0) ∧ ¬ MixedTexts negativeZero (int 0) ∧
      totalCmp negativeZero (int 0) = .lt ∧
      (negativeZero.naturalCmp (int 0) = .ok (some .lt) ∨
        negativeZero.naturalCmp (int 0) = .ok (some .eq)) := by
  have hnext : Comparable sharedUpper nextDouble := ⟨rfl, by decide +kernel, rfl⟩
  have hzero : Comparable negativeZero (int 0) := ⟨by decide +kernel, rfl, rfl⟩
  have hless : sharedUpper.naturalCmp nextDouble = .ok (some .lt) := by decide +kernel
  have hbefore : totalCmp negativeZero (int 0) = .lt := by decide +kernel
  obtain ⟨hagree, -⟩ := naturalCmp_totalCmp_agree
  exact ⟨⟨hnext, id, hless, (hagree _ _ hnext id).1 hless⟩, hzero, id, hbefore,
    (hagree _ _ hzero id).2 hbefore⟩

end Value

end QuadWalk
