import QuadWalk.Proofs.Paired
import QuadWalk.Proofs.Scope

/-!
# What the tags of a condition are bound to

After a condition, a tag is to be bound as the last branch binds it that gives it a binding of its
own, and as before if no branch does. Planning does not keep to this. It merges the branches one
after the other, and asks of each binding of a branch whether it differs from what has been merged
so far, and not whether it differs from what the branch began with. So a branch that has only
inherited a tag binds it once more, and undoes what an earlier branch made of it.

`Bindings.boundTo_foldl_mergeExports` says what merging gives in all cases: the last branch that has
the tag in scope at all counts. `Step.boundTo_whereAll` compares the two; they differ exactly where
a rebinding is undone.
-/

namespace QuadWalk

namespace Bindings

theorem nodup_names (e : Bindings) : e.names.Nodup := List.nodup_reverse.2 (nodup_eraseDups _)

/-- What the last of some bindings that bind a tag bind it to. -/
def latest (branches : List Bindings) (t : String) : Option Nat :=
  branches.reverse.findSome? (·.boundTo t)

@[simp]
theorem latest_nil (t : String) : latest [] t = none := rfl

@[simp]
theorem latest_append_singleton (branches : List Bindings) (b : Bindings) (t : String) :
    latest (branches ++ [b]) t = (b.boundTo t).or (latest branches t) := by
  rw [latest, List.reverse_append, List.findSome?_append, latest]
  simp

/-- **The last branch that binds a tag counts**, whether it has bound the tag by itself or not. -/
theorem boundTo_foldl_mergeExports (branches : List Bindings) (base : Bindings) (t : String) :
    (branches.foldl mergeExports base).boundTo t = (latest branches t).or (base.boundTo t) := by
  induction branches using List.reverseRecOn with
  | nil => rfl
  | append_singleton branches b ih =>
    rw [List.foldl_append, List.foldl_cons, List.foldl_nil, boundTo_mergeExports, ih,
      latest_append_singleton, Option.or_assoc]

/-- What a tag is to be bound to after some branches: what the last one says that gives it a binding
of its own. -/
def rebound (e : Bindings) (branches : List Bindings) (t : String) : Option Nat :=
  (latest (branches.filter fun b => e.rebinds b t) t).or (e.boundTo t)

/-- A branch rebinds a tag, and the last one that binds the tag has only inherited it. -/
def Undone (e : Bindings) (branches : List Bindings) (t : String) : Prop :=
  (∃ b ∈ branches, e.rebinds b t = true) ∧ latest branches t = e.boundTo t

variable {e : Bindings} {branches : List Bindings} {t : String}

/-- Without a binding of its own, no branch changes a tag. -/
theorem latest_of_not_rebinds (h : ∀ b ∈ branches, e.rebinds b t = false) :
    (latest branches t).or (e.boundTo t) = e.boundTo t := by
  induction branches using List.reverseRecOn with
  | nil => rfl
  | append_singleton branches b ih =>
    have hb : e.rebinds b t = false := h b (by simp)
    have hrest := ih fun b' hb' => h b' (List.mem_append_left _ hb')
    rw [latest_append_singleton, Option.or_assoc, hrest]
    cases hbound : b.boundTo t with
    | none => rfl
    | some i => exact (boundTo_of_not_rebinds hb hbound).symm

/-- The branches that rebind a tag bind it to something else than before. -/
theorem latest_filter_rebinds_ne (h : ∃ b ∈ branches, e.rebinds b t = true) :
    ∃ i, latest (branches.filter fun b => e.rebinds b t) t = some i ∧ e.boundTo t ≠ some i := by
  induction branches using List.reverseRecOn with
  | nil => simp at h
  | append_singleton branches b ih =>
    rw [List.filter_append]
    cases hb : e.rebinds b t with
    | true =>
      obtain ⟨hsome, hne⟩ : (b.boundTo t).isSome = true ∧ b.boundTo t ≠ e.boundTo t := by
        simpa [rebinds] using hb
      obtain ⟨i, hi⟩ := Option.isSome_iff_exists.1 hsome
      refine ⟨i, ?_, fun heq => hne (hi.trans heq.symm)⟩
      simp [hb, hi]
    | false =>
      have hbefore : ∃ b ∈ branches, e.rebinds b t = true := by
        obtain ⟨b', hb', hrebinds⟩ := h
        rcases List.mem_append.1 hb' with hb' | hb'
        · exact ⟨b', hb', hrebinds⟩
        · simp [List.mem_singleton.1 hb', hb] at hrebinds
      simpa [hb] using ih hbefore

/-- If the last branch that binds a tag rebinds it, the others do not matter. -/
theorem latest_filter_rebinds_eq {i : Nat} (h : latest branches t = some i)
    (hne : e.boundTo t ≠ some i) :
    latest (branches.filter fun b => e.rebinds b t) t = some i := by
  induction branches using List.reverseRecOn with
  | nil => simp at h
  | append_singleton branches b ih =>
    rw [latest_append_singleton] at h
    rw [List.filter_append]
    cases hbound : b.boundTo t with
    | none =>
      have hb : e.rebinds b t = false := by simp [rebinds, hbound]
      simpa [hb] using ih (by simpa [hbound] using h)
    | some j =>
      obtain rfl : j = i := by simpa [hbound] using h
      have hb : e.rebinds b t = true := by simpa [rebinds, hbound] using hne.symm
      simp [hb, hbound]

/-- **Merging binds a tag as it is to be bound exactly if no rebinding is undone.** -/
theorem boundTo_foldl_mergeExports_eq_rebound_iff :
    (branches.foldl mergeExports e).boundTo t = e.rebound branches t ↔ ¬ e.Undone branches t := by
  rw [boundTo_foldl_mergeExports, rebound]
  by_cases hany : ∃ b ∈ branches, e.rebinds b t = true
  · obtain ⟨i, hlatest, hne⟩ := latest_filter_rebinds_ne hany
    by_cases hinherited : latest branches t = e.boundTo t
    · -- the last branch has inherited the tag, and an earlier one has changed it
      refine iff_of_false ?_ (not_not_intro ⟨hany, hinherited⟩)
      rw [hinherited, Option.or_self, hlatest, Option.some_or]
      exact hne
    · refine iff_of_true ?_ fun hundone => hinherited hundone.2
      cases hj : latest branches t with
      | none =>
        -- a branch that rebinds the tag binds it
        obtain ⟨b, hb, hrebinds⟩ := hany
        have hnone : b.boundTo t = none :=
          List.findSome?_eq_none_iff.1 hj b (List.mem_reverse.2 hb)
        simp [rebinds, hnone] at hrebinds
      | some j =>
        rw [latest_filter_rebinds_eq hj fun heq => hinherited (hj.trans heq.symm)]
  · refine iff_of_true ?_ fun hundone => hany hundone.1
    have hnone : ∀ b ∈ branches, e.rebinds b t = false := by simpa using hany
    have hfilter : (branches.filter fun b => e.rebinds b t) = [] := by simpa using hnone
    rw [hfilter, latest_nil, Option.none_or, latest_of_not_rebinds hnone]

/-- Where a rebinding is undone, the tag is bound as before. -/
theorem boundTo_foldl_mergeExports_of_undone (h : e.Undone branches t) :
    (branches.foldl mergeExports e).boundTo t = e.boundTo t := by
  rw [boundTo_foldl_mergeExports, h.2, Option.or_self]

/-- A new tag is never lost. -/
theorem not_undone_of_new (h : e.contains t = false) : ¬ e.Undone branches t := by
  rintro ⟨⟨b, hb, hrebinds⟩, hlatest⟩
  have hnone : e.boundTo t = none := by simpa [contains_eq_isSome] using h
  have hbound : b.boundTo t = none :=
    List.findSome?_eq_none_iff.1 (hlatest.trans hnone) b (List.mem_reverse.2 hb)
  simp [rebinds, hbound] at hrebinds

end Bindings

namespace Step

open Planner

variable {sizeLimit : Nat} {o : Step} {ss : List Step} {e : Bindings} {n m : Supply} {p : Planned}

/-- **What the tags are bound to after a condition.** Whatever the bindings around it, an accepted
condition lists no tag twice, and binds a tag as the last branch does that binds it in a way of its
own, or as its origin does if none does so, except where a rebinding is undone: then, the tag is
bound as by the origin. A tag that the origin does not bind is never undone. -/
theorem boundTo_whereAll (h : (whereAll o ss).plan sizeLimit e n = .ok (p, m)) :
    ∃ po k outs l, o.plan sizeLimit e n = .ok (po, k) ∧
      planEach sizeLimit ss
        (po.bindings.withPlaceholder (k.afterAnchor.ref (.anchor k.nextAnchor)))
        k.afterAnchor.afterPlan = .ok (outs, l) ∧
      p.bindings.names.Nodup ∧
      ∀ t, let branches := outs.map Planned.bindings
        (p.bindings.boundTo t = po.bindings.rebound branches t ↔
          ¬ po.bindings.Undone branches t) ∧
        (po.bindings.Undone branches t → p.bindings.boundTo t = po.bindings.boundTo t) ∧
        (po.bindings.contains t = false →
          p.bindings.boundTo t = po.bindings.rebound branches t) := by
  simp only [plan, bind_eq_ok, require_eq_ok, newAnchor_eq_ok, identify_eq_ok, planned_eq_ok] at h
  obtain ⟨_, _, ⟨-, rfl⟩, po, k, ho, _, _, ⟨rfl, rfl⟩, _, _, ⟨rfl, rfl⟩, outs, l, hs, rfl, rfl⟩ := h
  refine ⟨po, k, outs, l, ho, hs, Bindings.nodup_names _, fun t => ?_⟩
  rw [← List.foldl_map]
  refine ⟨Bindings.boundTo_foldl_mergeExports_eq_rebound_iff,
    Bindings.boundTo_foldl_mergeExports_of_undone, fun hnew => ?_⟩
  exact Bindings.boundTo_foldl_mergeExports_eq_rebound_iff.2 (Bindings.not_undone_of_new hnew)

/-- A condition on a bound tag: one branch binds it anew, and one only has it in scope. -/
def boundAnew (branches : List Step) : Step :=
  .whereAll (.tagged (.vertex [.iri "alice"]) "x") branches

/-- A branch that binds the tag anew. -/
def anew : Step := .tagged .placeholder "x"

/-- If the branch that binds the tag comes last, it counts. -/
theorem boundTo_whereAll_boundAnew :
    ∃ p m, (boundAnew [.placeholder, anew]).plan 0 .root {} = .ok (p, m) ∧
      p.bindings.names.Nodup ∧ p.bindings.boundTo "x" = some 4 := by
  have hplan : ((boundAnew [.placeholder, anew]).plan 0 .root {}).isOk = true := by decide +kernel
  obtain ⟨⟨p, m⟩, hp⟩ := exists_eq_ok_of_isOk hplan
  obtain ⟨po, k, outs, l, ho, hs, hnodup, hbound⟩ := boundTo_whereAll hp
  refine ⟨p, m, hp, hnodup, ?_⟩
  cases ho
  cases hs
  rw [(hbound "x").1.2 (by rintro ⟨-, hlatest⟩; exact absurd hlatest (by decide))]
  decide

/-- If the other branch comes last, the tag is bound as before the condition. -/
theorem not_rebound_of_whereAll :
    ¬ ∀ (sizeLimit : Nat) (o : Step) (ss : List Step) (e : Bindings) (n m k l : Supply)
        (p po : Planned) (outs : List Planned),
      (whereAll o ss).plan sizeLimit e n = .ok (p, m) → o.plan sizeLimit e n = .ok (po, k) →
      planEach sizeLimit ss
          (po.bindings.withPlaceholder (k.afterAnchor.ref (.anchor k.nextAnchor)))
          k.afterAnchor.afterPlan = .ok (outs, l) →
        ∀ t, p.bindings.boundTo t = po.bindings.rebound (outs.map Planned.bindings) t := by
  intro h
  have hbound := h 0 _ [anew, .placeholder] .root {} _ _ _ _ _ _
    (show (boundAnew [anew, .placeholder]).plan 0 .root {} = .ok (_, _) from rfl) rfl rfl "x"
  exact absurd hbound (by decide)

end Step

end QuadWalk
