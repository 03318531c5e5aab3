import Mathlib.Data.List.Nodup

/-!
# Lists without repetitions

What is left of a list when repetitions are dropped, by whatever likeness of its elements: nothing
is left that was not there, nothing is dropped that has nothing like it left, and no two that are
left are alike.
-/

namespace QuadWalk

variable {α : Type}

/-! ### By some likeness -/

/-- To prove something of a list whose repetitions are dropped, it may be supposed of the elements
that are not like the head. -/
theorem eraseDupsBy_induction (same : α → α → Bool) {motive : List α → Prop} (nil : motive [])
    (cons : ∀ a l, motive (l.filter fun b => same b a = false) → motive (a :: l)) : ∀ l, motive l
  | [] => nil
  | a :: l => cons a l (eraseDupsBy_induction same nil cons _)
termination_by l => l.length
decreasing_by
  have := List.length_filter_le (fun b => same b a = false) l
  simp only [List.length_cons]
  omega

section Likeness

variable {same : α → α → Bool} {a : α} {as : List α}

/-- What is left without repetitions was there before. -/
theorem mem_of_mem_eraseDupsBy (h : a ∈ as.eraseDupsBy same) : a ∈ as := by
  induction as using eraseDupsBy_induction same with
  | nil => simp at h
  | cons b as ih =>
    rw [List.eraseDupsBy_cons] at h
    rcases List.mem_cons.1 h with rfl | h
    · exact List.mem_cons_self
    · exact List.mem_cons_of_mem _ (List.mem_filter.1 (ih h)).1

/-- What is not left is like something that is. -/
theorem exists_mem_eraseDupsBy (h : a ∈ as) :
    ∃ b ∈ as.eraseDupsBy same, b = a ∨ same a b = true := by
  induction as using eraseDupsBy_induction same with
  | nil => simp at h
  | cons b as ih =>
    rw [List.eraseDupsBy_cons]
    rcases List.mem_cons.1 h with rfl | h
    · exact ⟨a, List.mem_cons_self, .inl rfl⟩
    · by_cases hs : same a b = true
      · exact ⟨b, List.mem_cons_self, .inr hs⟩
      · obtain ⟨c, hc, hac⟩ := ih (List.mem_filter.2 ⟨h, by simpa using hs⟩)
        exact ⟨c, List.mem_cons_of_mem _ hc, hac⟩

/-- What is left has no repetitions. -/
theorem pairwise_eraseDupsBy : (as.eraseDupsBy same).Pairwise fun a b => same b a = false := by
  induction as using eraseDupsBy_induction same with
  | nil => simp
  | cons a as ih =>
    rw [List.eraseDupsBy_cons, List.pairwise_cons]
    refine ⟨fun b hb => ?_, ih⟩
    exact of_decide_eq_true (List.mem_filter.1 (mem_of_mem_eraseDupsBy hb)).2

/-- Where nothing is repeated, nothing is dropped. -/
theorem eraseDupsBy_of_pairwise (h : as.Pairwise fun a b => same b a = false) :
    as.eraseDupsBy same = as := by
  induction as with
  | nil => simp
  | cons a as ih =>
    obtain ⟨hhead, htail⟩ := List.pairwise_cons.1 h
    have hrest : as.filter (fun b => same b a = false) = as :=
      List.filter_eq_self.2 fun b hb => decide_eq_true (hhead b hb)
    rw [List.eraseDupsBy_cons, hrest, ih htail]

end Likeness

/-! ### By equality -/

theorem nodup_eraseDups [BEq α] [LawfulBEq α] (as : List α) : as.eraseDups.Nodup := by
  have hpairs : as.eraseDups.Pairwise fun a b => (b == a) = false := pairwise_eraseDupsBy
  exact hpairs.imp fun h => (beq_eq_false_iff_ne.1 h).symm

/-- One more element at the end is left if it is new. -/
theorem eraseDups_append_singleton [DecidableEq α] (as : List α) (a : α) :
    (as ++ [a]).eraseDups = if a ∈ as then as.eraseDups else as.eraseDups ++ [a] := by
  rw [List.eraseDups_append]
  by_cases h : a ∈ as
  · simp [List.removeAll, h]
  · simp [List.removeAll, h, List.eraseDups_cons]

/-- In a list without repetitions, the first place of an element is its only one. -/
theorem idxOf?_eq_some_iff_of_nodup [DecidableEq α] {as : List α} (h : as.Nodup) {a : α} {i : Nat} :
    as.idxOf? a = some i ↔ as[i]? = some a := by
  rw [List.idxOf?_eq_some_iff, List.getElem?_eq_some_iff]
  constructor
  · rintro ⟨hi, ha, -⟩
    exact ⟨hi, ha⟩
  · rintro ⟨hi, ha⟩
    refine ⟨hi, ha, fun j hj hja => ?_⟩
    have hsame : j = i := h.getElem_inj_iff.1 (hja.trans ha.symm)
    omega

end QuadWalk
