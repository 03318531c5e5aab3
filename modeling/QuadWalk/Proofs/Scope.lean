import QuadWalk.Proofs.Planning
import QuadWalk.Proofs.TagMap

/-!
# Tags in scope

`Step.scope` says, from the step alone, which tags are in scope after it, given those in scope
around it. It is the scoping rule of the language: `As`, `Properties` and `PropertyNamesAs` bring
tags in, origins and fragments hand them on, a condition adds what its steps bind, and a count leaves
none.

The bindings that planning carries along bind exactly these tags (`Step.contains_of_plans`), so a
prepared query lists exactly the tags in scope at its root (`Step.mem_tags_iff_of_prepare`). What a
tag is bound to comes first, with what merging a branch into a base makes of it
(`Bindings.mergeExports_eq_foldl`, `Bindings.boundTo_mergeExports`).
-/

namespace QuadWalk

/-! ### Which tags bindings bind -/

namespace Bindings

/-- What a tag is bound to: the identity of the plan that binds it. -/
def boundTo (e : Bindings) (t : String) : Option Nat := (e.find? t).map (·.id)

theorem contains_eq_isSome (e : Bindings) (t : String) : e.contains t = (e.boundTo t).isSome := by
  simp [contains, boundTo]

theorem boundTo_bind (e : Bindings) (tag t : String) (p : PlanRef) :
    (e.bind tag p).boundTo t = if t = tag then some p.id else e.boundTo t := by
  unfold boundTo find? bind
  rw [TagMap.lookup_cons_eq_ite]
  by_cases h : t = tag <;> simp [h]

theorem contains_bind (e : Bindings) (tag t : String) (p : PlanRef) :
    (e.bind tag p).contains t = (decide (t = tag) || e.contains t) := by
  rw [contains_eq_isSome, boundTo_bind, contains_eq_isSome]
  by_cases h : t = tag <;> simp [h]

theorem mem_names_iff {e : Bindings} {t : String} : t ∈ e.names ↔ e.contains t = true := by
  unfold names contains find?
  rw [List.mem_reverse, List.mem_eraseDups]
  induction e.cells with
  | nil => simp
  | cons cell cells ih =>
    rw [TagMap.lookup_cons_eq_ite]
    by_cases h : t = cell.1 <;> simp [h, ih]

/-- Whether bindings bind a tag in a way of their own, not as others do. -/
def rebinds (e b : Bindings) (t : String) : Bool :=
  (b.boundTo t).isSome && b.boundTo t != e.boundTo t

/-- The tags that a branch binds in a way of its own, those whose binding is older first. -/
def exported (e b : Bindings) : List String := b.names.filter (e.rebinds b)

variable {e b : Bindings} {t : String} {tags : List String}

theorem rebinds_iff : e.rebinds b t = true ↔ b.contains t = true ∧ b.boundTo t ≠ e.boundTo t := by
  rw [rebinds, Bool.and_eq_true, bne_iff_ne, contains_eq_isSome]

/-- What bindings do not bind in a way of their own they bind as the others, if at all. -/
theorem boundTo_of_not_rebinds (h : e.rebinds b t = false) {i : Nat} (hi : b.boundTo t = some i) :
    e.boundTo t = some i := by
  simpa [rebinds, hi, eq_comm (a := some i)] using h

theorem mem_exported_iff : t ∈ e.exported b ↔ e.rebinds b t = true := by
  rw [exported, List.mem_filter, mem_names_iff, and_iff_right_iff_imp]
  exact fun h => (rebinds_iff.1 h).1

/-- A tag that a branch binds in a way of its own is bound as it does. -/
theorem adopt_of_rebinds (h : e.rebinds b t = true) :
    ∃ p, b.find? t = some p ∧ ∀ merged, adopt e b merged t = merged.bind t p := by
  obtain ⟨hbound, hother⟩ := rebinds_iff.1 h
  obtain ⟨p, hfind⟩ := Option.isSome_iff_exists.1 hbound
  have hne : e.boundTo t ≠ some p.id := by
    intro heq
    exact hother (by rw [heq, boundTo, hfind, Option.map_some])
  refine ⟨p, hfind, fun merged => ?_⟩
  rw [adopt, hfind]
  exact if_neg hne

/-- A tag that it binds to the same plan as the base, or not at all, stays as it is. -/
theorem adopt_of_not_rebinds (h : e.rebinds b t = false) (merged : Bindings) :
    adopt e b merged t = merged := by
  unfold adopt
  cases hfind : b.find? t with
  | none => rfl
  | some p =>
    have hbound : b.boundTo t = some p.id := by rw [boundTo, hfind, Option.map_some]
    exact if_pos (boundTo_of_not_rebinds h hbound)

/-- **To merge is to bind the exported tags**, one after the other. -/
theorem mergeExports_eq_foldl (e b : Bindings) :
    e.mergeExports b = (e.exported b).foldl (adopt e b) e := by
  have hadopt :
      adopt e b = fun merged t => if e.rebinds b t then adopt e b merged t else merged := by
    funext merged t
    cases h : e.rebinds b t with
    | true => rfl
    | false => exact adopt_of_not_rebinds h merged
  rw [mergeExports, exported, List.foldl_filter, ← hadopt]

theorem find?_foldl_adopt (h : ∀ s ∈ tags, e.rebinds b s = true) (merged : Bindings) (t : String) :
    (tags.foldl (adopt e b) merged).find? t = if t ∈ tags then b.find? t else merged.find? t := by
  induction tags generalizing merged with
  | nil => rfl
  | cons s tags ih =>
    obtain ⟨p, hfind, hadopt⟩ := adopt_of_rebinds (h s List.mem_cons_self)
    have hbind : (merged.bind s p).find? t = if t = s then some p else merged.find? t :=
      TagMap.lookup_cons_eq_ite t (s, p) merged.cells
    rw [List.foldl_cons, hadopt, ih fun s hs => h s (List.mem_cons_of_mem _ hs), hbind]
    by_cases hs : t = s
    · subst hs
      simp [hfind]
    · simp [hs]

/-- Exported tags have the plan of the branch, and the others that of the base. -/
theorem find?_mergeExports (e b : Bindings) (t : String) :
    (e.mergeExports b).find? t = if e.rebinds b t then b.find? t else e.find? t := by
  rw [mergeExports_eq_foldl, find?_foldl_adopt fun s hs => mem_exported_iff.1 hs]
  simp only [mem_exported_iff]

/-- **Merged bindings are those of the branch over those of the base**, as far as identities tell.
-/
theorem boundTo_mergeExports (base branch : Bindings) (t : String) :
    (base.mergeExports branch).boundTo t = (branch.boundTo t).or (base.boundTo t) := by
  have hfind := congrArg (Option.map PlanRef.id) (find?_mergeExports base branch t)
  cases h : base.rebinds branch t with
  | true =>
    rw [h, if_pos rfl] at hfind
    have hbound : (branch.boundTo t).isSome = true := (Bool.and_eq_true_iff.1 h).1
    exact hfind.trans (Option.or_of_isSome hbound).symm
  | false =>
    rw [h, if_neg Bool.false_ne_true] at hfind
    refine hfind.trans ?_
    show base.boundTo t = (branch.boundTo t).or (base.boundTo t)
    cases hbound : branch.boundTo t with
    | none => rfl
    | some i => exact boundTo_of_not_rebinds h hbound

/-- A branch that binds its tags as the base does exports nothing. -/
theorem mergeExports_eq_self (h : ∀ t, b.contains t = true → b.boundTo t = e.boundTo t) :
    e.mergeExports b = e := by
  have hexported : e.exported b = [] := by
    refine List.eq_nil_iff_forall_not_mem.2 fun t ht => ?_
    obtain ⟨hbound, hother⟩ := rebinds_iff.1 (mem_exported_iff.1 ht)
    exact hother (h t hbound)
  rw [mergeExports_eq_foldl, hexported, List.foldl_nil]

/-- Merging adds the tags of the branch to those of the base. -/
theorem contains_mergeExports (base branch : Bindings) (t : String) :
    (base.mergeExports branch).contains t = (base.contains t || branch.contains t) := by
  simp only [contains_eq_isSome, boundTo_mergeExports, Option.isSome_or, Bool.or_comm]

theorem contains_foldl_mergeExports (branches : List Bindings) (base : Bindings) (t : String) :
    (branches.foldl mergeExports base).contains t =
      (base.contains t || branches.any fun b => b.contains t) := by
  induction branches generalizing base with
  | nil => simp
  | cons b branches ih => simp [ih, contains_mergeExports, Bool.or_assoc]

end Bindings

/-! ### The scoping rule -/

namespace Step

mutual

/-- The tags in scope after a step, given those in scope around it. -/
def scope : Step → List String → List String
  | entities _, outer => outer
  | vertex _, outer => outer
  | placeholder, outer => outer
  | visit _ o _, outer => scope o outer
  | back o, outer => scope o outer
  | backTo o _, outer => scope o outer
  | properties _ o names, outer => names ++ scope o outer
  | propertyNames _ o, outer => scope o outer
  | propertyNamesAs _ o tag, outer => tag :: scope o outer
  | has _ o _ _, outer => scope o outer
  | isOneOf o _, outer => scope o outer
  | combine _ o _, outer => scope o outer
  | filter o _, outer => scope o outer
  | compare _ o _, outer => scope o outer
  | count _, _ => []
  | limit o _, outer => scope o outer
  | skip o _, outer => scope o outer
  | unique o, outer => scope o outer
  | order o, outer => scope o outer
  | tagged o name, outer => name :: scope o outer
  | whereAll o steps, outer => scopeEach steps (scope o outer) ++ scope o outer
  | optional o s, outer => scope s (scope o outer) ++ scope o outer
  | follow o s, outer => scope s (scope o outer)
  | select o _, outer => scope o outer
  | selectFirst o, outer => scope o outer
  | documents o, outer => scope o outer

/-- The tags in scope after any of some steps that do not see one another. -/
def scopeEach : List Step → List String → List String
  | [], _ => []
  | s :: ss, outer => scope s outer ++ scopeEach ss outer

end

theorem mem_scopeEach_iff {ss : List Step} {outer : List String} {t : String} :
    t ∈ scopeEach ss outer ↔ ∃ s ∈ ss, t ∈ s.scope outer := by
  induction ss with
  | nil => simp [scopeEach]
  | cons s ss ih => simp [scopeEach, ih]

/-- The bindings bind the tags of a list and no others. -/
def Binds (e : Bindings) (tags : List String) : Prop := ∀ t, e.contains t = true ↔ t ∈ tags

theorem Binds.bind {e : Bindings} {tags : List String} (h : Binds e tags) (tag : String)
    (p : PlanRef) : Binds (e.bind tag p) (tag :: tags) := by
  intro t
  rw [Bindings.contains_bind, List.mem_cons, ← h t]
  simp

theorem Binds.saveEach {d : Direction} {names : List String} {po p : Planned} {k m : Supply}
    {tags : List String} (h : Planner.saveEach d names po k = .ok (p, m))
    (ho : Binds po.bindings tags) : Binds p.bindings (names ++ tags) := by
  induction names generalizing po k tags with
  | nil =>
    simp only [Planner.saveEach, Planner.pure_eq_ok] at h
    obtain ⟨rfl, rfl⟩ := h
    exact ho
  | cons name names ih =>
    simp only [Planner.saveEach, Planner.bind_eq_ok, Planner.binding_eq_ok] at h
    obtain ⟨_, _, ⟨rfl, rfl⟩, h⟩ := h
    intro t
    rw [ih h (ho.bind name _) t]
    simp only [List.mem_append, List.mem_cons, List.cons_append]
    grind

variable {sizeLimit : Nat}

theorem Applies.scope_eq {o s : Step} {po : Planned} {p : Plan} (h : Applies sizeLimit o po s p)
    (outer : List String) : s.scope outer = o.scope outer := by
  cases h <;> simp [scope]

/-- **The bindings after a step bind the tags in scope after it.** -/
theorem contains_of_plans {s : Step} {e : Bindings} {n m : Supply} {p : Planned}
    (h : Plans sizeLimit s e n p m) {outer : List String} (he : Binds e outer) :
    Binds p.bindings (s.scope outer) := by
  induction h generalizing outer with
  | entities _ => simpa [scope] using he
  | vertex => simpa [scope] using he
  | placeholder => simpa [scope] using he
  | apply _ ha iho => rw [ha.scope_eq]; exact iho he
  | visit _ _ iho _ => rw [scope]; exact iho he
  | has _ _ _ iho _ => rw [scope]; exact iho he
  | combine _ _ _ _ iho _ => rw [scope]; exact iho he
  | properties _ _ saved iho => rw [scope]; exact (iho he).saveEach saved
  | propertyNamesAs _ iho => rw [scope]; exact (iho he).bind _ _
  | tagged _ _ iho => rw [scope]; exact (iho he).bind _ _
  | count _ _ => intro t; simp [scope, Bindings.contains, Bindings.find?]
  | @whereAll _ _ _ _ _ po bs _ _ _ _ iho ihs =>
    intro t
    have hfold := Bindings.contains_foldl_mergeExports
      (bs.map fun b => b.planned.bindings) po.bindings t
    rw [List.foldl_map] at hfold
    rw [hfold, scope, List.mem_append, mem_scopeEach_iff, Bool.or_eq_true, iho he t, or_comm]
    refine or_congr_left ?_
    simp only [List.any_map, List.any_eq_true, List.mem_map, Function.comp]
    constructor
    · rintro ⟨b, hb, ht⟩
      exact ⟨b.step, ⟨b, hb, rfl⟩, (ihs b hb (iho he) t).1 ht⟩
    · rintro ⟨_, ⟨b, hb, rfl⟩, ht⟩
      exact ⟨b, hb, (ihs b hb (iho he) t).2 ht⟩
  | optional _ _ iho ihb =>
    intro t
    rw [Bindings.contains_mergeExports, Bool.or_eq_true, iho he t, ihb (iho he) t, scope,
      List.mem_append, or_comm]
  | follow _ _ iho ihf => rw [scope]; exact ihf (iho he)

/-- A prepared query lists the tags in scope at its root. -/
theorem mem_tags_iff_of_prepare {s : Step} {settings : Settings} {q : PreparedQuery}
    (h : s.prepare settings = .ok q) (t : String) : t ∈ q.tags ↔ t ∈ s.shape.1.scope [] := by
  obtain ⟨p, m, hp, -, -, htags⟩ := plans_of_prepare h
  have hroot : Binds .root [] := fun t => by simp [Bindings.contains, Bindings.find?, Bindings.root]
  rw [htags, Bindings.mem_names_iff]
  exact contains_of_plans hp hroot t

end Step

end QuadWalk
