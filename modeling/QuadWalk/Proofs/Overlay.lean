import QuadWalk.Proofs.Commuting
import QuadWalk.Proofs.Inlining
import QuadWalk.Proofs.Rebinding

/-!
# Merged bindings

A tag may have been bound several times, and the last binding counts. So the bound tags stand in the
order in which their bindings were made, those of hidden bindings left aside: to bind a tag puts it
at the end (`Bindings.names_bind`), and there is only one list that has each bound tag once and the
older ones first (`Bindings.listsByAge_iff`).

To merge a branch into a base is to bind the tags that the branch rebinds, those that are older in
the branch first, and no others. What is merged looks up a tag in the branch if that binds it and in
the base if not; so nothing is left to rebind when the same branch is merged once more
(`Bindings.mergeExports_overlays`). The branch need not have begun with the base.
-/

namespace QuadWalk.Bindings

/-! ### The age of a binding -/

/-- How many bindings were made after the one that counts for a tag. -/
def age (e : Bindings) (t : String) : Nat := e.cells.findIdx fun cell => cell.1 == t

/-- **The tags in the order of their bindings**: each bound tag once, and no other, with those
before it whose binding is older. -/
structure ListsByAge (e : Bindings) (tags : List String) : Prop where
  nodup : tags.Nodup
  mem_iff : ∀ t, t ∈ tags ↔ e.contains t = true
  older : tags.Pairwise fun s t => e.age t < e.age s

/-- Bindings are made one after the other. -/
@[elab_as_elim]
theorem bind_induction {P : Bindings → Prop} (unbound : ∀ q, P { placeholder := q })
    (bind : ∀ e tag p, P e → P (e.bind tag p)) (e : Bindings) : P e := by
  obtain ⟨cells, q⟩ := e
  induction cells with
  | nil => exact unbound q
  | cons cell cells ih => exact bind ⟨cells, q⟩ cell.1 cell.2 ih

/-- A new binding makes the others older. -/
theorem age_bind (e : Bindings) (tag t : String) (p : PlanRef) :
    (e.bind tag p).age t = if t = tag then 0 else e.age t + 1 := by
  rw [age, bind, List.findIdx_cons]
  by_cases h : t = tag
  · simp [h]
  · simp [h, beq_eq_false_iff_ne.2 (Ne.symm h), age]

/-- **To bind a tag puts it at the end**, wherever it was. -/
theorem names_bind (e : Bindings) (tag : String) (p : PlanRef) :
    (e.bind tag p).names = e.names.filter (· != tag) ++ [tag] := by
  have hrest : (firstsBy id (e.cells.map Prod.fst)).filter (· != tag) =
      firstsBy id ((e.cells.map Prod.fst).filter (· != tag)) :=
    filter_firstsBy (fun _ _ h => congrArg (· != tag) h) _
  rw [names, bind, List.map_cons, List.eraseDups_cons, List.reverse_cons, names,
    List.filter_reverse]
  exact congrArg (·.reverse ++ [tag]) hrest.symm

/-- The bound tags stand in the order of their bindings. -/
theorem listsByAge_names (e : Bindings) : e.ListsByAge e.names where
  nodup := nodup_names e
  mem_iff _ := mem_names_iff
  older := by
    induction e using bind_induction with
    | unbound q => exact .nil
    | bind e tag p ih =>
      rw [names_bind, List.pairwise_append]
      refine ⟨?_, List.pairwise_singleton _ _, fun s hs t ht => ?_⟩
      · -- the other tags keep their order
        refine (ih.filter _).imp_of_mem fun {s t} hs ht hlt => ?_
        have hs' : s ≠ tag := by simpa using (List.mem_filter.1 hs).2
        have ht' : t ≠ tag := by simpa using (List.mem_filter.1 ht).2
        rw [age_bind, age_bind, if_neg hs', if_neg ht']
        exact Nat.succ_lt_succ hlt
      · obtain rfl := List.mem_singleton.1 ht
        have hs' : s ≠ t := by simpa using (List.mem_filter.1 hs).2
        rw [age_bind, age_bind, if_pos rfl, if_neg hs']
        exact Nat.succ_pos _

/-- **There is one such list.** -/
theorem listsByAge_iff {e : Bindings} {tags : List String} :
    e.ListsByAge tags ↔ tags = e.names := by
  constructor
  · intro h
    have hnames := listsByAge_names e
    have hperm : tags.Perm e.names :=
      (List.perm_ext_iff_of_nodup h.nodup hnames.nodup).2 fun t =>
        (h.mem_iff t).trans (hnames.mem_iff t).symm
    refine hperm.eq_of_pairwise (fun s t _ _ hst hts => ?_) h.older hnames.older
    exact absurd hst (Nat.lt_asymm hts)
  · rintro rfl
    exact listsByAge_names e

/-! ### Merging -/

variable {e b : Bindings} {t : String} {tags : List String}

/-- Exported tags come last, in their order. -/
theorem names_foldl_adopt (h : ∀ s ∈ tags, e.rebinds b s = true) (hnodup : tags.Nodup)
    (merged : Bindings) :
    (tags.foldl (adopt e b) merged).names = merged.names.filter (· ∉ tags) ++ tags := by
  induction tags generalizing merged with
  | nil => simp
  | cons s tags ih =>
    obtain ⟨p, -, hadopt⟩ := adopt_of_rebinds (h s List.mem_cons_self)
    obtain ⟨hs, hnodup⟩ := List.nodup_cons.1 hnodup
    have hothers : merged.names.filter (fun t => t ∉ tags && t != s) =
        merged.names.filter (· ∉ s :: tags) :=
      List.filter_congr fun t _ => by by_cases ht : t = s <;> simp [ht]
    rw [List.foldl_cons, hadopt, ih (fun s hs => h s (List.mem_cons_of_mem _ hs)) hnodup,
      names_bind, List.filter_append, List.filter_filter, hothers]
    simp [hs]

/-- Merging puts the exported tags after the others. -/
theorem names_mergeExports (e b : Bindings) :
    (e.mergeExports b).names = e.names.filter (fun t => !e.rebinds b t) ++ e.exported b := by
  rw [mergeExports_eq_foldl, names_foldl_adopt (fun s hs => mem_exported_iff.1 hs)
    ((nodup_names b).filter _)]
  simp [mem_exported_iff]

/-- Nothing is left to rebind after a branch is merged. -/
theorem mergeExports_mergeExports (e b : Bindings) :
    (e.mergeExports b).mergeExports b = e.mergeExports b :=
  mergeExports_eq_self fun t hbound => by
    rw [contains_eq_isSome] at hbound
    rw [boundTo_mergeExports, Option.or_of_isSome hbound]

/-- **Merging lays a branch over a base.** Let `e` and `b` be any bindings, `b` not necessarily made
from `e`. The merged bindings look up each tag as `b` if that binds it, and as `e` if not, where
plans are told apart by their identities; a tag that both bind to one plan keeps the binding of `e`,
and so does the placeholder. Merging `b` once more changes nothing at all. In the order of the tags,
those that `b` binds in a way of its own come last, as in `b`, and the others stay as in `e`. Of any
bindings, the names are the one list that has each bound tag once, nothing else, and those tags
first whose last binding is older. -/
theorem mergeExports_overlays (e b : Bindings) :
    (∀ t, (e.mergeExports b).boundTo t = if b.contains t then b.boundTo t else e.boundTo t) ∧
    (∀ t, (e.mergeExports b).find? t = if e.rebinds b t then b.find? t else e.find? t) ∧
    (e.mergeExports b).placeholder = e.placeholder ∧
    (e.mergeExports b).mergeExports b = e.mergeExports b ∧
    (e.mergeExports b).names =
      e.names.filter (fun t => !e.rebinds b t) ++ b.names.filter (e.rebinds b) ∧
    ∀ tags, e.ListsByAge tags ↔ tags = e.names := by
  refine ⟨fun t => ?_, find?_mergeExports e b, placeholder_mergeExports e b,
    mergeExports_mergeExports e b, names_mergeExports e b, fun tags => listsByAge_iff⟩
  rw [boundTo_mergeExports, contains_eq_isSome]
  cases b.boundTo t <;> rfl

end QuadWalk.Bindings
