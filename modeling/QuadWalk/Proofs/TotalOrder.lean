import QuadWalk.Proofs.Rounding
import QuadWalk.Value.Order

/-!
# The total order of values is linear

Sorting asks of the total order that it is linear and that only a value itself stands beside it
(`Value.totalCmp_linear`). What makes this doubtful are the numbers: two integers are compared as
they are, an integer and a double through the double nearest to the integer.

The order is that of keys: the place of the form, then texts, then numbers (`Value.totalCmp_eq`). An
integer has its nearest double before itself in its key. That changes nothing between two integers,
because rounding is monotone; and it puts integers and doubles into one lexicographic order, in
which the integers that share a double come right before it.
-/

namespace QuadWalk

/-! ### Doubles by their bits -/

namespace Binary64

variable {x y : Binary64}

theorem toNat_bits (x : Binary64) :
    x.bits.toNat = x.magnitude + if x.isNegative then signWeight else 0 := by
  have hlt : x.bits.toNat < 2 * signWeight := x.bits.toNat_lt
  unfold magnitude isNegative
  by_cases h : signWeight ≤ x.bits.toNat
  · rw [decide_eq_true h, if_pos rfl, Nat.mod_eq_sub_mod h, Nat.mod_eq_of_lt (by omega)]
    omega
  · rw [decide_eq_false h, if_neg Bool.false_ne_true, Nat.mod_eq_of_lt (by omega), Nat.add_zero]

/-- No two doubles have one place in their total order. -/
theorem eq_of_totalKey (h : x.totalKey = y.totalKey) : x = y := by
  have hbits : x.bits.toNat = y.bits.toNat := by
    rw [toNat_bits, toNat_bits]
    unfold totalKey at h
    cases hx : x.isNegative <;> cases hy : y.isNegative <;>
      simp only [hx, hy, Bool.false_eq_true, if_true, if_false] at h ⊢ <;> omega
  obtain ⟨x⟩ := x
  obtain ⟨y⟩ := y
  exact congrArg mk (UInt64.toNat.inj hbits)

/-- Before two integers are compared, their nearest doubles may be. -/
theorem then_compare (m n : Int) :
    (compare (ofInt m).totalKey (ofInt n).totalKey).then (compare m n) = compare m n := by
  rcases Int.lt_trichotomy m n with h | rfl | h
  · have hmono := totalKey_ofInt_mono (Int.le_of_lt h)
    rw [Int.compare_eq_lt.2 h]
    rcases Int.lt_or_eq_of_le hmono with hk | hk
    · rw [Int.compare_eq_lt.2 hk]; rfl
    · rw [hk, Std.compare_self]; rfl
  · rw [Std.compare_self]; rfl
  · have hmono := totalKey_ofInt_mono (Int.le_of_lt h)
    rw [Int.compare_eq_gt.2 h]
    rcases Int.lt_or_eq_of_le hmono with hk | hk
    · rw [Int.compare_eq_gt.2 hk]; rfl
    · rw [hk, Std.compare_self]; rfl

end Binary64

/-! ### Keys -/

namespace Value

/-- The texts of a value, the one that is compared first in front. -/
def texts : Value → List String
  | iri s | blank s | string s => [s]
  | lang s l => [s, l]
  | typed s d => [d, s]
  | bool _ | int _ | float _ => []

/-- The numbers of a value: of an integer, first the place of its nearest double, where `0` marks
integers and `1` the double itself. -/
def numbers : Value → List Int
  | bool b => [b.toInt]
  | int n => [(Binary64.ofInt n.toInt).totalKey, 0, n.toInt]
  | float x => [x.totalKey, 1]
  | iri _ | blank _ | string _ | lang _ _ | typed _ _ => []

theorem compare_toInt (p q : Bool) : compare p.toInt q.toInt = compare p q := by
  cases p <;> cases q <;> rfl

/-- **Values are in the order of their keys.** -/
theorem totalCmp_eq :
    totalCmp = compareLex (compareOn rank) (compareLex (compareOn texts) (compareOn numbers)) := by
  funext a b
  unfold compareLex compareOn totalCmp
  cases a <;> cases b <;>
    simp only [rank, texts, numbers, List.compare_cons_cons, compare_toInt, Std.compare_self,
      Ordering.then_eq, Ordering.eq_then, Binary64.then_compare, Binary64.compareTotal]
  all_goals rfl

/-- A value is known by its key. -/
theorem eq_of_keys {a b : Value} (hrank : a.rank = b.rank) (htexts : a.texts = b.texts)
    (hnumbers : a.numbers = b.numbers) : a = b := by
  cases a <;> cases b <;> cases hrank <;> simp_all [texts, numbers]
  case int.int m n => exact Int64.toInt_inj.1 hnumbers.2
  case float.float x y => exact Binary64.eq_of_totalKey hnumbers
  case bool.bool p q => revert hnumbers; cases p <;> cases q <;> simp

/-! ### Laws of the order -/

instance : Std.TransCmp totalCmp := by
  rw [totalCmp_eq]
  infer_instance

instance : Std.LawfulEqCmp totalCmp where
  compare_self := by
    intro a
    simp [totalCmp_eq, compareLex, compareOn]
  eq_of_compare := by
    intro a b h
    simp only [totalCmp_eq, compareLex, compareOn, Ordering.then_eq_eq, Std.compare_eq_iff_eq] at h
    obtain ⟨hrank, htexts, hnumbers⟩ := h
    exact eq_of_keys hrank htexts hnumbers

/-- Of two values, one does not come after the other. -/
theorem totalLe_total (a b : Value) : (a.totalLe b || b.totalLe a) = true := by
  unfold totalLe
  rw [@Std.OrientedCmp.eq_swap _ totalCmp _ a b]
  cases totalCmp b a <;> rfl

/-- Two values neither of which comes after the other are one value. -/
theorem totalLe_antisymm {a b : Value} (h : a.totalLe b = true) (h' : b.totalLe a = true) : a = b :=
  Std.LawfulEqCmp.eq_of_compare (Std.OrientedCmp.isLE_antisymm h h')

/-- **The total order of values is linear, and consistent with equality**: comparing in the other
direction gives the reverse; what is not above something that is not above a third value is not
above that; and no value stands beside another one. -/
theorem totalCmp_linear :
    (∀ a b : Value, totalCmp a b = (totalCmp b a).swap) ∧
    (∀ a b c : Value, totalCmp a b ≠ .gt → totalCmp b c ≠ .gt → totalCmp a c ≠ .gt) ∧
    ∀ a b : Value, totalCmp a b = .eq ↔ a = b := by
  refine ⟨fun a b => Std.OrientedCmp.eq_swap, fun a b c hab hbc => ?_, fun a b => ?_⟩
  · have hle : (totalCmp a c).isLE :=
      Std.TransCmp.isLE_trans (Ordering.isLE_iff_ne_gt.2 hab) (Ordering.isLE_iff_ne_gt.2 hbc)
    exact Ordering.isLE_iff_ne_gt.1 hle
  · exact Std.LawfulEqCmp.compare_eq_iff_eq

/-- Two integers that share a double, and that double. -/
theorem totalCmp_linear_shared :
    totalCmp (int 0x20000000000000) (int 0x20000000000001) ≠ .gt ∧
    totalCmp (int 0x20000000000001) (float (.ofInt 0x20000000000000)) ≠ .gt ∧
    totalCmp (int 0x20000000000000) (float (.ofInt 0x20000000000000)) ≠ .gt := by
  have hlow : totalCmp (int 0x20000000000000) (int 0x20000000000001) ≠ .gt := by decide +kernel
  have hhigh : totalCmp (int 0x20000000000001) (float (.ofInt 0x20000000000000)) ≠ .gt := by
    decide +kernel
  exact ⟨hlow, hhigh, totalCmp_linear.2.1 _ _ _ hlow hhigh⟩

end Value

end QuadWalk
