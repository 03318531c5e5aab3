import Mathlib.Data.List.Induction
import QuadWalk.Proofs.Rows

/-!
# First appearances

Where repetitions are dropped, an element is left if it is new: nothing before it is like it
(`eraseDupsBy_eq_zipIdx`). Whether the list before it has been freed of repetitions already makes no
difference, provided that likeness is transitive; so repetitions may be dropped part by part
(`eraseDupsBy_append_left`).

Elements with the same key are alike, and an element without a key is like no other. Dropping
repetitions then leaves the first element with each key, in the order in which the keys appear
(`firstSeen_eraseDupsBy`).
-/

namespace QuadWalk

open Items

/-! ### What is new -/

section Repetitions

variable {α : Type} {same : α → α → Bool}

/-- Nothing before an element is like it. -/
def isNew (same : α → α → Bool) (before : List α) (a : α) : Bool := !before.any (same a)

theorem isNew_eq_true {before : List α} {a : α} :
    isNew same before a = true ↔ ∀ b ∈ before, same a b = false := by simp [isNew]

variable (trans : ∀ a b c, same a b = true → same b c = true → same a c = true)

include trans

/-- To what is not like an element, whatever is like that makes no difference: it is new to a list
exactly if it is new to the rest. -/
theorem isNew_filter {a b : α} (hb : same b a = false) (l : List α) :
    isNew same (l.filter fun c => same c a = false) b = isNew same l b := by
  rw [Bool.eq_iff_iff, isNew_eq_true, isNew_eq_true]
  simp only [List.mem_filter, decide_eq_true_eq, and_imp]
  refine ⟨fun h c hc => ?_, fun h c hc _ => h c hc⟩
  cases hca : same c a with
  | true => exact Bool.eq_false_iff.2 fun hbc => Bool.eq_false_iff.1 hb (trans b c a hbc hca)
  | false => exact h c hc hca

/-- What comes later is left if it is new to what came before, repetitions included. -/
theorem eraseDupsBy_append (l₁ l₂ : List α) :
    (l₁ ++ l₂).eraseDupsBy same =
      l₁.eraseDupsBy same ++ (l₂.filter (isNew same l₁)).eraseDupsBy same := by
  induction l₁ using eraseDupsBy_induction same generalizing l₂ with
  | nil =>
    have hall : l₂.filter (isNew same []) = l₂ := List.filter_eq_self.2 fun b _ => rfl
    rw [hall]
    simp
  | cons a l₁ ih =>
    have hnew : (l₂.filter fun b => same b a = false).filter
        (isNew same (l₁.filter fun b => same b a = false)) = l₂.filter (isNew same (a :: l₁)) := by
      rw [List.filter_filter]
      refine List.filter_congr fun b _ => ?_
      cases hb : same b a with
      | true => simp [isNew, hb]
      | false =>
        rw [isNew_filter trans hb]
        simp [isNew, hb]
    rw [List.cons_append, List.eraseDupsBy_cons, List.eraseDupsBy_cons, List.filter_append, ih,
      hnew, List.cons_append]

/-- What is new to a list is new to what is left of it, and the other way round. -/
theorem isNew_eraseDupsBy (l : List α) : isNew same (l.eraseDupsBy same) = isNew same l := by
  funext a
  refine Bool.eq_iff_iff.2 ?_
  simp only [isNew_eq_true]
  constructor
  · intro h b hb
    have hleft : ∃ c ∈ l.eraseDupsBy same, c = b ∨ same b c = true := exists_mem_eraseDupsBy hb
    obtain ⟨c, hc, rfl | hbc⟩ := hleft
    · exact h c hc
    · exact Bool.eq_false_iff.2 fun hab => Bool.eq_false_iff.1 (h c hc) (trans a b c hab hbc)
  · exact fun h b hb => h b (mem_of_mem_eraseDupsBy hb)

/-- Repetitions may be dropped from the first part first. -/
theorem eraseDupsBy_append_left (l₁ l₂ : List α) :
    (l₁.eraseDupsBy same ++ l₂).eraseDupsBy same = (l₁ ++ l₂).eraseDupsBy same := by
  rw [eraseDupsBy_append trans, eraseDupsBy_append trans, isNew_eraseDupsBy trans,
    eraseDupsBy_of_pairwise pairwise_eraseDupsBy]

/-- **What is left is what is new at its place.** -/
theorem eraseDupsBy_eq_zipIdx (l : List α) :
    l.eraseDupsBy same =
      (l.zipIdx.filter fun x => isNew same (l.take x.2) x.1).map Prod.fst := by
  induction l using List.reverseRecOn with
  | nil => simp
  | append_singleton l a ih =>
    have hbefore : l.zipIdx.filter (fun x => isNew same ((l ++ [a]).take x.2) x.1) =
        l.zipIdx.filter fun x => isNew same (l.take x.2) x.1 := by
      refine List.filter_congr fun x hx => ?_
      have hlt : x.2 < l.length := by simpa using List.snd_lt_of_mem_zipIdx hx
      rw [List.take_append_of_le_length (Nat.le_of_lt hlt)]
    rw [eraseDupsBy_append trans, ih, List.zipIdx_append, List.filter_append, hbefore,
      List.map_append]
    cases hnew : isNew same l a <;> simp [hnew, List.eraseDupsBy_cons]

theorem exists_append_of_mem_eraseDupsBy {l : List α} {a : α} (h : a ∈ l.eraseDupsBy same) :
    ∃ before after, l = before ++ a :: after ∧ isNew same before a = true := by
  rw [eraseDupsBy_eq_zipIdx trans] at h
  obtain ⟨⟨b, i⟩, hx, rfl⟩ := List.mem_map.1 h
  obtain ⟨hmem, hnew⟩ := List.mem_filter.1 hx
  obtain ⟨hi, hb⟩ := List.getElem?_eq_some_iff.1 (List.mem_zipIdx_iff_getElem?.1 hmem)
  refine ⟨l.take i, l.drop (i + 1), ?_, hnew⟩
  rw [← hb, List.getElem_cons_drop, List.take_append_drop]

end Repetitions

/-! ### The first element with each key -/

section Keys

variable {α κ : Type} [BEq κ] {key? : α → Option κ}

/-- Among what is kept is the first element with each key, and no other element with a key; they
stand in the order in which the keys appear. -/
structure FirstSeen (key? : α → Option κ) (all kept : List α) : Prop where
  keys : kept.filterMap key? = (all.filterMap key?).eraseDups
  first : ∀ a ∈ kept, ∀ k, key? a = some k → all.find? (fun b => key? b == some k) = some a

/-- Dropping repetitions is the same before the keys are taken and after. -/
theorem filterMap_eraseDupsBy (l : List α) :
    (l.eraseDupsBy (LazyList.sameKey key?)).filterMap key? = (l.filterMap key?).eraseDups := by
  induction l using eraseDupsBy_induction (LazyList.sameKey key?) with
  | nil => rfl
  | cons a l ih =>
    rw [List.eraseDupsBy_cons]
    cases ha : key? a with
    | none =>
      have hrest : l.filter (fun b => LazyList.sameKey key? b a = false) = l :=
        List.filter_eq_self.2 fun b _ => by simp [LazyList.sameKey, ha]
      rw [hrest] at ih ⊢
      rw [List.filterMap_cons_none ha, List.filterMap_cons_none ha, ih]
    | some k =>
      have hrest : (l.filter fun b => LazyList.sameKey key? b a = false).filterMap key? =
          (l.filterMap key?).filter fun k' => !k' == k := by
        rw [List.filterMap_filter, List.filter_filterMap]
        refine List.filterMap_congr fun b _ => ?_
        cases hb : key? b with
        | none => simp
        | some l => cases hl : l == k <;> simp [LazyList.sameKey, ha, hb, hl, Option.filter]
      rw [List.filterMap_cons_some ha, List.filterMap_cons_some ha, ih, hrest, List.eraseDups_cons]

variable [LawfulBEq κ]

theorem sameKey_eq_true {a b : α} :
    LazyList.sameKey key? a b = true ↔ ∃ k, key? a = some k ∧ key? b = some k := by
  unfold LazyList.sameKey
  cases key? a with
  | none => simp
  | some k =>
    cases key? b with
    | none => simp
    | some l => simpa using eq_comm

theorem sameKey_trans (a b c : α) (hab : LazyList.sameKey key? a b = true)
    (hbc : LazyList.sameKey key? b c = true) : LazyList.sameKey key? a c = true := by
  obtain ⟨k, ha, hb⟩ := sameKey_eq_true.1 hab
  obtain ⟨l, hb', hc⟩ := sameKey_eq_true.1 hbc
  obtain rfl : k = l := Option.some.inj (hb.symm.trans hb')
  exact sameKey_eq_true.2 ⟨k, ha, hc⟩

/-- **Dropping repetitions leaves the first element with each key.** -/
theorem firstSeen_eraseDupsBy (l : List α) :
    FirstSeen key? l (l.eraseDupsBy (LazyList.sameKey key?)) where
  keys := filterMap_eraseDupsBy l
  first := by
    intro a ha k hk
    obtain ⟨before, after, rfl, hnew⟩ := exists_append_of_mem_eraseDupsBy sameKey_trans ha
    rw [List.find?_eq_some_iff_append]
    refine ⟨by simp [hk], before, after, rfl, fun b hb => ?_⟩
    have hother : LazyList.sameKey key? a b = false := isNew_eq_true.1 hnew b hb
    have hne : key? b ≠ some k := fun hb => by simp [LazyList.sameKey, hk, hb] at hother
    simpa using hne

end Keys

end QuadWalk
