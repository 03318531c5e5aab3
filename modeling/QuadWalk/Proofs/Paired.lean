import Mathlib.Data.Multiset.Bind
import QuadWalk.Proofs.Rows

/-!
# Lists that are paired off

Two lists are paired by a relation if their elements can be paired off, in whatever order, so that
the elements of each pair are related. This is `Multiset.Rel` for lists, with what is needed of it
to follow two runs of one query that meet the same things in different orders.

For a relation that pairs each thing with one other at most, no pairing has to be given where
nothing is repeated: it is enough that each element has a partner in the other list
(`Paired.of_nodup`).
-/

namespace QuadWalk

variable {α β γ δ : Type} {R : α → β → Prop} {S : γ → δ → Prop} {as as' : List α} {bs bs' : List β}

/-- The elements of two lists can be paired off. -/
def Paired (R : α → β → Prop) (as : List α) (bs : List β) : Prop :=
  Multiset.Rel R (as : Multiset α) (bs : Multiset β)

/-- Related elements are equal on one side if they are on the other. -/
def OneToOne (R : α → β → Prop) : Prop :=
  ∀ ⦃a a' b b'⦄, R a b → R a' b' → (a = a' ↔ b = b')

/-! ### Pairings -/

namespace Paired

theorem nil : Paired R [] [] := .zero

theorem cons {a : α} {b : β} (hab : R a b) (h : Paired R as bs) : Paired R (a :: as) (b :: bs) :=
  Multiset.Rel.cons hab h

theorem flip (h : Paired R as bs) : Paired (flip R) bs as := Multiset.rel_flip.2 h

theorem mono {R' : α → β → Prop} (h : Paired R as bs) (hR : ∀ a ∈ as, ∀ b ∈ bs, R a b → R' a b) :
    Paired R' as bs :=
  Multiset.Rel.mono h hR

theorem append (h : Paired R as bs) (h' : Paired R as' bs') :
    Paired R (as ++ as') (bs ++ bs') := by
  unfold Paired
  rw [← Multiset.coe_add, ← Multiset.coe_add]
  exact Multiset.Rel.add h h'

/-- The order on neither side matters. -/
theorem of_perm (h : Paired R as bs) (ha : as'.Perm as) (hb : bs'.Perm bs) : Paired R as' bs' := by
  unfold Paired
  rw [Multiset.coe_eq_coe.2 ha, Multiset.coe_eq_coe.2 hb]
  exact h

theorem length_eq (h : Paired R as bs) : as.length = bs.length := Multiset.card_eq_card_of_rel h

theorem exists_right (h : Paired R as bs) {a : α} (ha : a ∈ as) : ∃ b ∈ bs, R a b :=
  Multiset.exists_mem_of_rel_of_mem h (Multiset.mem_coe.2 ha)

theorem exists_left (h : Paired R as bs) {b : β} (hb : b ∈ bs) : ∃ a ∈ as, R a b :=
  h.flip.exists_right hb

/-- An element is in one list if its partner is in the other. -/
theorem mem_iff (h : Paired R as bs) (hR : OneToOne R) {a : α} {b : β} (hab : R a b) :
    a ∈ as ↔ b ∈ bs := by
  constructor
  · intro ha
    obtain ⟨b', hb', hab'⟩ := h.exists_right ha
    exact (hR hab hab').1 rfl ▸ hb'
  · intro hb
    obtain ⟨a', ha', hab'⟩ := h.exists_left hb
    exact (hR hab hab').2 rfl ▸ ha'

theorem map_iff {f : α → γ} {g : β → δ} :
    Paired S (as.map f) (bs.map g) ↔ Paired (fun a b => S (f a) (g b)) as bs := by
  unfold Paired
  rw [← Multiset.map_coe, ← Multiset.map_coe]
  exact Multiset.rel_map

/-- Lists that partners are replaced by are paired if those of partners are. -/
theorem flatMap {f : α → List γ} {g : β → List δ} (h : Paired R as bs)
    (hf : ∀ a ∈ as, ∀ b ∈ bs, R a b → Paired S (f a) (g b)) :
    Paired S (as.flatMap f) (bs.flatMap g) := by
  unfold Paired
  rw [← Multiset.coe_bind, ← Multiset.coe_bind]
  exact Multiset.rel_bind (r := fun a b => Paired S (f a) (g b)) (fun _ _ hab => hab) (h.mono hf)

theorem of_option {x : Option α} {y : Option β} (h : Option.Rel R x y) :
    Paired R x.toList y.toList := by
  cases h with
  | none => exact .nil
  | some hab => exact .cons hab .nil

theorem filterMap {f : α → Option γ} {g : β → Option δ} (h : Paired R as bs)
    (hf : ∀ a ∈ as, ∀ b ∈ bs, R a b → Option.Rel S (f a) (g b)) :
    Paired S (as.filterMap f) (bs.filterMap g) := by
  rw [List.filterMap_eq_flatMap_toList, List.filterMap_eq_flatMap_toList]
  exact h.flatMap fun a ha b hb hab => of_option (hf a ha b hb hab)

theorem filter {p : α → Bool} {q : β → Bool} (h : Paired R as bs)
    (hp : ∀ a ∈ as, ∀ b ∈ bs, R a b → p a = q b) : Paired R (as.filter p) (bs.filter q) := by
  rw [← List.filterMap_eq_filter, ← List.filterMap_eq_filter]
  refine h.filterMap fun a ha b hb hab => ?_
  rw [Option.guard, Option.guard, hp a ha b hb hab]
  split
  · exact .some hab
  · exact .none

/-- What two functions make of one list is paired if what they make of each element is. -/
theorem filterMap_same {f : γ → Option α} {g : γ → Option β} {cs : List γ}
    (h : ∀ c ∈ cs, Option.Rel R (f c) (g c)) : Paired R (cs.filterMap f) (cs.filterMap g) := by
  have hcs : Paired (· = ·) cs cs := Multiset.rel_eq_refl
  refine hcs.filterMap ?_
  rintro c hc _ - rfl
  exact h c hc

theorem any_eq {p : α → Bool} {q : β → Bool} (h : Paired R as bs) (hp : ∀ a b, R a b → p a = q b) :
    as.any p = bs.any q := by
  rw [Bool.eq_iff_iff, List.any_eq_true, List.any_eq_true]
  constructor
  · rintro ⟨a, ha, hpa⟩
    obtain ⟨b, hb, hab⟩ := h.exists_right ha
    exact ⟨b, hb, hp a b hab ▸ hpa⟩
  · rintro ⟨b, hb, hqb⟩
    obtain ⟨a, ha, hab⟩ := h.exists_left hb
    exact ⟨a, ha, hp a b hab ▸ hqb⟩

/-- If partners have one result, then the results of both lists are the same, up to the order. -/
theorem perm_of_map_eq {ε : Type} {f : α → Except ε γ} {g : β → Except ε γ} {cs ds : List γ}
    (h : Paired R as bs) (hR : ∀ a b, R a b → f a = g b) (hcs : as.map f = cs.map .ok)
    (hds : bs.map g = ds.map .ok) : cs.Perm ds := by
  have heq : Paired (· = ·) (as.map f) (bs.map g) :=
    map_iff.2 (h.mono fun a _ b _ hab => hR a b hab)
  rw [hcs, hds] at heq
  exact (List.map_perm_map_iff fun _ _ => Except.ok.inj).1
    (Multiset.coe_eq_coe.1 (Multiset.rel_eq.1 heq))

/-- If computations succeed for partners with one result, then they do for the lists. -/
theorem exists_mapM_perm {ε : Type} {f : α → Except ε γ} {g : β → Except ε γ} (h : Paired R as bs)
    (hR : ∀ a b, R a b → ∃ c, f a = .ok c ∧ g b = .ok c) :
    ∃ cs ds, as.mapM f = .ok cs ∧ bs.mapM g = .ok ds ∧ cs.Perm ds := by
  have hleft : ∀ a ∈ as, ∃ c, f a = .ok c := by
    intro a ha
    obtain ⟨b, -, hab⟩ := h.exists_right ha
    obtain ⟨c, hc, -⟩ := hR a b hab
    exact ⟨c, hc⟩
  have hright : ∀ b ∈ bs, ∃ c, g b = .ok c := by
    intro b hb
    obtain ⟨a, -, hab⟩ := h.exists_left hb
    obtain ⟨c, -, hc⟩ := hR a b hab
    exact ⟨c, hc⟩
  obtain ⟨cs, hcs⟩ := exists_map_eq_ok hleft
  obtain ⟨ds, hds⟩ := exists_map_eq_ok hright
  have hsame : cs.Perm ds := by
    refine h.perm_of_map_eq (fun a b hab => ?_) hcs hds
    obtain ⟨c, ha, hb⟩ := hR a b hab
    exact ha.trans hb.symm
  exact ⟨cs, ds, mapM_ok_iff.2 hcs, mapM_ok_iff.2 hds, hsame⟩

/-- **Lists without repetitions are paired if each element has a partner.** -/
theorem of_nodup (hR : OneToOne R) (ha : as.Nodup) (hb : bs.Nodup)
    (hright : ∀ a ∈ as, ∃ b ∈ bs, R a b) (hleft : ∀ b ∈ bs, ∃ a ∈ as, R a b) : Paired R as bs := by
  classical
  induction as generalizing bs with
  | nil =>
    cases bs with
    | nil => exact .nil
    | cons b bs => simpa using hleft b List.mem_cons_self
  | cons a as ih =>
    obtain ⟨hnew, ha⟩ := List.nodup_cons.1 ha
    obtain ⟨b, hmem, hab⟩ := hright a List.mem_cons_self
    -- the rest of both lists is paired by induction
    have hrest : Paired R as (bs.erase b) := by
      refine ih ha (hb.erase b) (fun a' ha' => ?_) fun b' hb' => ?_
      · obtain ⟨b', hb', hab'⟩ := hright a' (List.mem_cons_of_mem a ha')
        refine ⟨b', (hb.mem_erase_iff).2 ⟨fun heq => ?_, hb'⟩, hab'⟩
        exact hnew ((hR hab hab').2 heq.symm ▸ ha')
      · obtain ⟨hne, hb'⟩ := hb.mem_erase_iff.1 hb'
        obtain ⟨a', ha', hab'⟩ := hleft b' hb'
        rcases List.mem_cons.1 ha' with rfl | ha'
        · exact absurd ((hR hab' hab).1 rfl) hne
        · exact ⟨a', ha', hab'⟩
    exact (hrest.cons hab).of_perm (.refl _) (List.perm_cons_erase hmem)

end Paired

/-! ### Repetitions -/

/-- Paired lists are still paired when repetitions are dropped. -/
theorem Paired.eraseDups [DecidableEq α] [DecidableEq β] (hR : OneToOne R) (h : Paired R as bs) :
    Paired R as.eraseDups bs.eraseDups := by
  refine .of_nodup hR (nodup_eraseDups as) (nodup_eraseDups bs) (fun a ha => ?_) fun b hb => ?_
  · obtain ⟨b, hb, hab⟩ := h.exists_right (List.mem_eraseDups.1 ha)
    exact ⟨b, List.mem_eraseDups.2 hb, hab⟩
  · obtain ⟨a, ha, hab⟩ := h.exists_left (List.mem_eraseDups.1 hb)
    exact ⟨a, List.mem_eraseDups.2 ha, hab⟩

end QuadWalk
