import QuadWalk.Proofs.Acceptance
import QuadWalk.Proofs.Exports

/-!
# Steps without a free placeholder

A placeholder in a branch of a condition stands for an anchor, and one in a fragment for what is
followed. All others in a step stand for what the placeholder of its surroundings stands for, and a
step that has none of these is *closed* (`Step.isClosed`).

Where a closed step stands does not matter: it means the same (`Step.meaning_eq_of_isClosed`), it is
accepted wherever no fewer tags are in scope (`Step.succeeds_plan_of_wider`), and planned from the
same numbers it gets the same plan (`Step.agree_plan`). The last two hold of any step under bindings
that share their placeholder; they have to be proved for these, too, since the branches of a closed
step are not closed.
-/

namespace QuadWalk

/-! ### Planners that agree -/

namespace Planner

variable {α α' β β' : Type} {R : α → α' → Prop} {S : β → β' → Prop}

/-- From the same numbers, two planners that both succeed have related results and leave the same
numbers. -/
def Agree (R : α → α' → Prop) (x : Planner α) (x' : Planner α') : Prop :=
  ∀ ⦃n a m a' m'⦄, x n = .ok (a, m) → x' n = .ok (a', m') → R a a' ∧ m = m'

theorem Agree.bind {x : Planner α} {x' : Planner α'} {f : α → Planner β} {f' : α' → Planner β'}
    (hx : Agree R x x') (hf : ∀ a a', R a a' → Agree S (f a) (f' a')) :
    Agree S (x >>= f) (x' >>= f') := by
  intro n b m b' m' h h'
  obtain ⟨a, k, ha, hb⟩ := bind_eq_ok.1 h
  obtain ⟨a', k', ha', hb'⟩ := bind_eq_ok.1 h'
  obtain ⟨haa', rfl⟩ := hx ha ha'
  exact hf a a' haa' hb hb'

theorem Agree.pure {a : α} {a' : α'} (h : R a a') : Agree R (pure a) (pure a') := by
  intro n b m b' m' hb hb'
  obtain ⟨rfl, rfl⟩ := pure_eq_ok.1 hb
  obtain ⟨rfl, rfl⟩ := pure_eq_ok.1 hb'
  exact ⟨h, rfl⟩

theorem Agree.refl (x : Planner α) : Agree (· = ·) x x := by
  intro n a m a' m' h h'
  cases h.symm.trans h'
  exact ⟨rfl, rfl⟩

/-- A check that comes first may be taken to have passed. -/
theorem Agree.check {found : Except QueryError α} {f : α → Planner β} {f' : α → Planner β'}
    (hf : ∀ a, found = .ok a → Agree S (f a) (f' a)) :
    Agree S (check found >>= f) (check found >>= f') := by
  intro n b m b' m' h h'
  obtain ⟨a, k, ha, hb⟩ := bind_eq_ok.1 h
  obtain ⟨a', k', ha', hb'⟩ := bind_eq_ok.1 h'
  obtain ⟨hfound, rfl⟩ := check_eq_ok.1 ha
  cases ha.symm.trans ha'
  exact hf a hfound hb hb'

/-- The same plan, by its identity, whatever the bindings. -/
def SamePlan (p p' : Planned) : Prop := p.ref = p'.ref

theorem agree_planned (p : Plan) (e e' : Bindings) :
    Agree SamePlan (planned p e) (planned p e') :=
  (Agree.refl (identify p)).bind fun _ _ href => .pure href

theorem agree_put (operator : Plan → Plan) {o o' : Planned} (h : SamePlan o o') :
    Agree SamePlan (put operator o) (put operator o') := by
  rw [put, put, show o.ref = o'.ref from h]
  exact agree_planned _ _ _

/-- A tag may be in scope under one of the bindings only; then, the other planner fails. -/
theorem agree_planned_of_contains (tag : String) (p : Plan) (e e' : Bindings) :
    Agree SamePlan
      (if e.contains tag = true then planned p e else check (.error (.unresolvedTag tag)))
      (if e'.contains tag = true then planned p e' else check (.error (.unresolvedTag tag))) := by
  intro n a m a' m' h h'
  split at h
  · split at h'
    · exact agree_planned p e e' h h'
    · simp [check_eq_ok] at h'
  · simp [check_eq_ok] at h

theorem agree_binding (tag : String) (p : Plan) (e e' : Bindings) :
    Agree SamePlan (binding tag p e) (binding tag p e') :=
  (Agree.refl (identify p)).bind fun _ _ href => .pure href

theorem agree_saveEach (d : Direction) (names : List String) {o o' : Planned}
    (h : SamePlan o o') : Agree SamePlan (saveEach d names o) (saveEach d names o') := by
  induction names generalizing o o' with
  | nil => exact .pure h
  | cons name names ih =>
    rw [saveEach, saveEach, show o.ref = o'.ref from h]
    exact (agree_binding _ _ _ _).bind fun _ _ => ih

end Planner

namespace Step

open Items Planner

/-! ### Closed steps -/

mutual

/-- Whether a step does not look at its placeholder. Of a condition, an option or a fragment, only
the origin does. -/
def isClosed : Step → Bool
  | entities _ | vertex _ => true
  | placeholder => false
  | visit _ o property | has _ o property _ => isClosed o && isClosed property
  | combine _ o ss => isClosed o && areClosed ss
  | back o | backTo o _ | properties _ o _ | propertyNames _ o | propertyNamesAs _ o _ | isOneOf o _
  | filter o _ | compare _ o _ | count o | limit o _ | skip o _ | unique o | order o | tagged o _
  | whereAll o _ | optional o _ | follow o _ | select o _ | selectFirst o | documents o =>
    isClosed o

/-- Whether some steps do not look at their placeholder. -/
def areClosed : List Step → Bool
  | [] => true
  | s :: ss => isClosed s && areClosed ss

end

theorem areClosed_iff {ss : List Step} : areClosed ss = true ↔ ∀ s ∈ ss, s.isClosed = true := by
  induction ss with
  | nil => simp [areClosed]
  | cons s ss ih => simp [areClosed, ih]

variable {sizeLimit : Nat} {g : Graph} {s o t : Step} {c c' c₂ c₂' : Around}

theorem isClosed_of_previous (ho : s.previous? = some o) (h : s.isClosed = true) :
    o.isClosed = true := by
  revert ho
  fun_cases previous? s <;> simp only [Option.some.injEq, reduceCtorEq, false_implies] <;>
    rintro rfl <;> simp_all [isClosed]

theorem isClosed_of_visited {tr : Traversal} {property : Step}
    (h : (visit tr o property).isClosed = true) : property.isClosed = true := by
  rw [isClosed, Bool.and_eq_true] at h
  exact h.2

theorem isClosed_of_had {d : Direction} {property : Step} {values : List Value}
    (h : (has d o property values).isClosed = true) : property.isClosed = true := by
  rw [isClosed, Bool.and_eq_true] at h
  exact h.2

theorem isClosed_of_combined {operation : SetOperation} {ss : List Step}
    (h : (combine operation o ss).isClosed = true) : ∀ b ∈ ss, b.isClosed = true := by
  rw [isClosed, Bool.and_eq_true, areClosed_iff] at h
  exact h.2

/-- **A closed step means the same wherever it stands.** -/
theorem meaning_eq_of_isClosed {s : Step} (h : s.isClosed = true) (ph ph' : Items) :
    s.meaning sizeLimit g ph = s.meaning sizeLimit g ph' := by
  have of_previous {o : Step} (ho : s.previous? = some o) :
      o.meaning sizeLimit g ph = o.meaning sizeLimit g ph' := by
    have := sizeOf_lt_of_previous ho
    exact meaning_eq_of_isClosed (isClosed_of_previous ho h) ph ph'
  cases s with
  | entities | vertex => simp only [meaning]
  | placeholder => simp [isClosed] at h
  | visit t o property =>
    simp only [meaning, of_previous rfl, meaning_eq_of_isClosed (isClosed_of_visited h) ph ph']
  | has d o property values =>
    simp only [meaning, of_previous rfl, meaning_eq_of_isClosed (isClosed_of_had h) ph ph']
  | combine operation o ss =>
    have hbranches : meaningEach sizeLimit g ss ph = meaningEach sizeLimit g ss ph' := by
      rw [meaningEach_eq_map, meaningEach_eq_map]
      refine List.map_congr_left fun b hb => ?_
      have := List.sizeOf_lt_of_mem hb
      rw [meaning_eq_of_isClosed (isClosed_of_combined h b hb) ph ph']
    cases operation <;> simp only [meaning, of_previous rfl, hbranches]
  | _ => simp only [meaning, of_previous rfl]
termination_by sizeOf s

/-! ### What is known around a step elsewhere -/

/-- The rows of a closed step have the same traversals wherever it stands. -/
theorem hop_eq_of_isClosed {s : Step} (h : s.isClosed = true) (outer outer' : HopState) :
    s.hop outer = s.hop outer' := by
  have of_previous {o : Step} (ho : s.previous? = some o) : o.hop outer = o.hop outer' := by
    have := sizeOf_lt_of_previous ho
    exact hop_eq_of_isClosed (isClosed_of_previous ho h) outer outer'
  cases s with
  | entities | vertex => rfl
  | placeholder => simp [isClosed] at h
  | combine operation o ss => cases operation <;> simp only [hop, of_previous rfl]
  | _ => simp only [hop, of_previous rfl]
termination_by sizeOf s

/-- With more tags around it, a step has more tags in scope after it. -/
theorem scope_subset {s : Step} {outer outer' : List String} (h : outer ⊆ outer') :
    s.scope outer ⊆ s.scope outer' := by
  induction s using row_induction generalizing outer outer' with
  | entities ids => exact h
  | vertex values => exact h
  | placeholder => exact h
  | count _ => exact List.Subset.refl _
  | origin ho ih =>
    rw [Stage.scope_of_origin ho, Stage.scope_of_origin ho]
    exact List.append_subset.2 ⟨fun t ht => List.mem_append_left _ ht,
      fun t ht => List.mem_append_right _ (ih h ht)⟩
  | union iho _ => exact iho h
  | whereAll iho ihss =>
    rw [scope, scope]
    refine List.append_subset.2 ⟨fun t ht => ?_, fun t ht => List.mem_append_right _ (iho h ht)⟩
    obtain ⟨b, hb, ht⟩ := mem_scopeEach_iff.1 ht
    exact List.mem_append_left _ (mem_scopeEach_iff.2 ⟨b, hb, ihss b hb (iho h) ht⟩)
  | optional iho ihb =>
    rw [scope, scope]
    exact List.append_subset.2 ⟨fun t ht => List.mem_append_left _ (ihb (iho h) ht),
      fun t ht => List.mem_append_right _ (iho h ht)⟩
  | follow iho ihf => exact ihf (iho h)

/-- Around a step, at least as many tags are in scope as somewhere else, and what is known of the
traversals is the same, unless the step does not look at its placeholder. -/
structure Wider (s : Step) (c c₂ : Around) : Prop where
  tags : c.tags ⊆ c₂.tags
  trail : s.isClosed = true ∨ c.trail = c₂.trail

namespace Wider

theorem previous (h : Wider s c c₂) (ho : s.previous? = some o) : Wider o c c₂ :=
  ⟨h.tags, h.trail.imp_left (isClosed_of_previous ho)⟩

theorem hop_eq (h : Wider s c c₂) : s.hop c.trail = s.hop c₂.trail := by
  rcases h.trail with hclosed | htrail
  · exact hop_eq_of_isClosed hclosed _ _
  · rw [htrail]

theorem visited {tr : Traversal} {property : Step} (h : Wider (visit tr o property) c c₂) :
    Wider property c c₂ :=
  ⟨h.tags, h.trail.imp_left isClosed_of_visited⟩

theorem had {d : Direction} {property : Step} {values : List Value}
    (h : Wider (has d o property values) c c₂) : Wider property c c₂ :=
  ⟨h.tags, h.trail.imp_left isClosed_of_had⟩

theorem combined {operation : SetOperation} {ss : List Step} {b : Step}
    (h : Wider (combine operation o ss) c c₂) (hb : b ∈ ss) : Wider b c c₂ :=
  ⟨h.tags, h.trail.imp_left fun hclosed => isClosed_of_combined hclosed b hb⟩

/-- In the branches of a condition, nothing is known of the anchor. -/
theorem branch (h : Wider s c c₂) (o b : Step) :
    Wider b ⟨o.scope c.tags, .unknown⟩ ⟨o.scope c₂.tags, .unknown⟩ :=
  ⟨scope_subset h.tags, .inr rfl⟩

theorem fragment {f : Step} (h : Wider (follow o f) c c₂) :
    Wider f ⟨o.scope c.tags, o.hop c.trail⟩ ⟨o.scope c₂.tags, o.hop c₂.trail⟩ :=
  ⟨scope_subset h.tags, .inr (h.previous rfl).hop_eq⟩

/-- What stands in a step stands in it also elsewhere, with no more tags around it. -/
theorem exists_stands (h : Stands s c₂ t c₂') (hw : Wider s c c₂) :
    ∃ c', Stands s c t c' ∧ Wider t c' c₂' := by
  induction h generalizing c with
  | here => exact ⟨c, .here, hw⟩
  | previous ho _ ih => exact (ih (hw.previous ho)).imp fun _ h => ⟨.previous ho h.1, h.2⟩
  | visited _ ih => exact (ih hw.visited).imp fun _ h => ⟨.visited h.1, h.2⟩
  | had _ ih => exact (ih hw.had).imp fun _ h => ⟨.had h.1, h.2⟩
  | combined hb _ ih => exact (ih (hw.combined hb)).imp fun _ h => ⟨.combined hb h.1, h.2⟩
  | condition hb _ ih => exact (ih (hw.branch _ _)).imp fun _ h => ⟨.condition hb h.1, h.2⟩
  | option _ ih => exact (ih (hw.branch _ _)).imp fun _ h => ⟨.option h.1, h.2⟩
  | fragment _ ih => exact (ih hw.fragment).imp fun _ h => ⟨.fragment h.1, h.2⟩

/-- A step that is allowed where it stands is allowed elsewhere, with at least as many tags in
scope. -/
theorem allowed (hw : Wider t c c₂) (h : t.Allowed sizeLimit c) : t.Allowed sizeLimit c₂ where
  isReport := h.isReport
  isFilledIn := h.isFilledIn
  undoes := by
    rintro o rfl
    rw [← (hw.previous rfl).hop_eq]
    exact h.undoes o rfl
  resolves := by
    rintro o tag rfl
    exact scope_subset hw.tags (h.resolves o tag rfl)

end Wider

variable {e e' : Bindings} {n n' m : Supply}

/-- Of any bindings something is known. -/
theorem knows_names (e : Bindings) : Knows e ⟨e.names, e.placeholder.plan.hopState⟩ :=
  ⟨fun _ => Bindings.mem_names_iff.symm, rfl⟩

/-- **A step is accepted wherever no fewer tags are in scope**, unless it looks at a placeholder of
whose traversals something else is known. -/
theorem succeeds_plan_of_wider (h : Succeeds (s.plan sizeLimit e) n)
    (htags : ∀ t, e.contains t = true → e'.contains t = true)
    (htrail : s.isClosed = true ∨
      e.placeholder.plan.hopState = e'.placeholder.plan.hopState) :
    Succeeds (s.plan sizeLimit e') n' := by
  have hwider : Wider s ⟨e.names, e.placeholder.plan.hopState⟩
      ⟨e'.names, e'.placeholder.plan.hopState⟩ :=
    ⟨fun t ht => Bindings.mem_names_iff.2 (htags t (Bindings.mem_names_iff.1 ht)), htrail⟩
  refine (succeeds_plan_iff (knows_names e')).2 fun t c' ht => ?_
  obtain ⟨c, hc, hw⟩ := Wider.exists_stands ht hwider
  exact hw.allowed ((succeeds_plan_iff (knows_names e)).1 h t c hc)

theorem agree_planEach {ss : List Step} {e e' : Bindings}
    (h : ∀ b ∈ ss, Agree SamePlan (b.plan sizeLimit e) (b.plan sizeLimit e')) :
    Agree (fun ps ps' => ps.map Planned.ref = ps'.map Planned.ref)
      (planEach sizeLimit ss e) (planEach sizeLimit ss e') := by
  induction ss with
  | nil => exact .pure rfl
  | cons b ss ih =>
    rw [planEach, planEach]
    refine (h b List.mem_cons_self).bind fun p p' (hp : p.ref = p'.ref) => ?_
    refine (ih fun b' hb' => h b' (List.mem_cons_of_mem _ hb')).bind fun ps ps' hps => .pure ?_
    rw [List.map_cons, List.map_cons, hp, hps]

/-- Branches that have the same references have the same plans. -/
theorem map_plan_eq {ps ps' : List Planned} (h : ps.map Planned.ref = ps'.map Planned.ref) :
    ps.map (·.ref.plan) = ps'.map (·.ref.plan) := by
  simpa [Function.comp_def] using congrArg (List.map PlanRef.plan) h

/-- What an operation makes of an origin depends on the plan of the origin only. -/
theorem agree_make {make : Planned → Planner Planned} {po po' : Planned}
    (h : Makes sizeLimit o s make) (hpo : SamePlan po po') :
    Agree SamePlan (make po) (make po') := by
  have hrefs : po.ref = po'.ref := hpo
  cases h with
  | put => exact agree_put _ hpo
  | back =>
    rw [putBack, putBack, hrefs]
    exact (Agree.refl _).bind fun _ _ _ => agree_put _ hpo
  | backTo =>
    rw [putBackTo, putBackTo, put, put, hrefs]
    exact agree_planned_of_contains _ _ _ _
  | properties => exact agree_saveEach _ _ hpo
  | propertyNamesAs | tagged =>
    rw [putBinding, putBinding, hrefs]
    exact agree_binding _ _ _ _
  | count =>
    rw [putCount, putCount, hrefs]
    exact agree_planned _ _ _

/-- An operation agrees under different bindings if its origin does. -/
theorem agree_operation {finish : Except QueryError (Planned → Planner Planned)}
    (h : s.operation? sizeLimit = some ⟨o, finish⟩)
    (ho : Agree SamePlan (o.plan sizeLimit e) (o.plan sizeLimit e')) :
    Agree SamePlan (s.plan sizeLimit e) (s.plan sizeLimit e') := by
  rw [plan_of_operation h, plan_of_operation h]
  refine .check ?_
  rintro make rfl
  exact ho.bind fun po po' => agree_make (makes_of_operation h)

/-- The branches of a condition have the new anchor for their placeholder on either side. -/
theorem agree_whereAll {ss : List Step}
    (ho : Agree SamePlan (o.plan sizeLimit e) (o.plan sizeLimit e'))
    (hss : ∀ b ∈ ss, ∀ f f' : Bindings, f.placeholder = f'.placeholder →
      Agree SamePlan (b.plan sizeLimit f) (b.plan sizeLimit f')) :
    Agree SamePlan ((whereAll o ss).plan sizeLimit e) ((whereAll o ss).plan sizeLimit e') := by
  rw [plan, plan]
  refine (Agree.refl _).bind fun _ _ _ => ?_
  refine ho.bind fun po po' (hpo : po.ref = po'.ref) => ?_
  refine (Agree.refl _).bind ?_
  rintro id _ rfl
  refine (Agree.refl _).bind ?_
  rintro ref _ rfl
  have hbranches : ∀ b ∈ ss, Agree SamePlan (b.plan sizeLimit (po.bindings.withPlaceholder ref))
      (b.plan sizeLimit (po'.bindings.withPlaceholder ref)) :=
    fun b hb => hss b hb _ _ rfl
  refine (agree_planEach hbranches).bind fun ps ps' hps => ?_
  rw [hpo, map_plan_eq hps]
  exact agree_planned _ _ _

theorem agree_optional {b : Step}
    (ho : Agree SamePlan (o.plan sizeLimit e) (o.plan sizeLimit e'))
    (hb : ∀ f f' : Bindings, f.placeholder = f'.placeholder →
      Agree SamePlan (b.plan sizeLimit f) (b.plan sizeLimit f')) :
    Agree SamePlan ((optional o b).plan sizeLimit e) ((optional o b).plan sizeLimit e') := by
  rw [plan, plan]
  refine ho.bind fun po po' (hpo : po.ref = po'.ref) => ?_
  refine (Agree.refl _).bind ?_
  rintro id _ rfl
  refine (Agree.refl _).bind ?_
  rintro ref _ rfl
  have hbranch : Agree SamePlan (b.plan sizeLimit (po.bindings.withPlaceholder ref))
      (b.plan sizeLimit (po'.bindings.withPlaceholder ref)) :=
    hb _ _ rfl
  refine hbranch.bind fun pb pb' (hpb : pb.ref = pb'.ref) => ?_
  rw [hpo, hpb]
  exact agree_planned _ _ _

/-- **Bindings matter to a plan only through their placeholder**, and not at all to that of a closed
step: where planning succeeds under both, it gets the same plan and uses up the same numbers. -/
theorem agree_plan {s : Step} {e e' : Bindings}
    (h : s.isClosed = true ∨ e.placeholder = e'.placeholder) :
    Agree SamePlan (s.plan sizeLimit e) (s.plan sizeLimit e') := by
  have of_previous {o : Step} (ho : s.previous? = some o) :
      Agree SamePlan (o.plan sizeLimit e) (o.plan sizeLimit e') := by
    have := sizeOf_lt_of_previous ho
    exact agree_plan (h.imp_left (isClosed_of_previous ho))
  cases s with
  | back | backTo | properties | propertyNames | propertyNamesAs | isOneOf | filter | compare
  | count | limit | skip | unique | order | tagged =>
    exact agree_operation rfl (of_previous rfl)
  | entities ids =>
    rw [plan, plan]
    refine (Agree.refl _).bind ?_
    rintro values _ rfl
    exact agree_planned _ _ _
  | vertex values => rw [plan, plan]; exact agree_planned _ _ _
  | placeholder =>
    rw [plan, plan]
    exact .pure (h.resolve_left (by simp [isClosed]))
  | visit t o property =>
    rw [plan, plan]
    refine (of_previous rfl).bind fun o o' (ho : o.ref = o'.ref) => ?_
    refine (agree_plan (h.imp_left isClosed_of_visited)).bind fun via via' hvia => ?_
    rw [ho, show via.ref = via'.ref from hvia]
    exact agree_planned _ _ _
  | has d o property values =>
    rw [plan, plan]
    refine (Agree.refl _).bind fun _ _ _ => ?_
    refine (of_previous rfl).bind fun o o' (ho : o.ref = o'.ref) => ?_
    refine (agree_plan (h.imp_left isClosed_of_had)).bind fun via via' hvia => ?_
    rw [ho, show via.ref = via'.ref from hvia]
    exact agree_planned _ _ _
  | combine operation o ss =>
    rw [plan, plan]
    refine (of_previous rfl).bind fun o o' (ho : o.ref = o'.ref) => ?_
    refine (Agree.refl _).bind fun _ _ _ => ?_
    refine (agree_planEach fun b hb => ?_).bind fun ps ps' hps => ?_
    · have := List.sizeOf_lt_of_mem hb
      exact agree_plan (h.imp_left fun hclosed => isClosed_of_combined hclosed b hb)
    · rw [ho, map_plan_eq hps]
      exact agree_planned _ _ _
  | whereAll o ss =>
    refine agree_whereAll (of_previous rfl) fun b hb f f' hf => ?_
    have := List.sizeOf_lt_of_mem hb
    exact agree_plan (.inr hf)
  | optional o b =>
    exact agree_optional (of_previous rfl) fun f f' hf => agree_plan (.inr hf)
  | follow o f =>
    rw [plan, plan]
    refine (of_previous rfl).bind fun o o' (ho : o.ref = o'.ref) => ?_
    exact (agree_plan (.inr ho)).bind fun _ _ hf => .pure hf
  | select | selectFirst | documents =>
    intro n a m a' m' hplan
    simp [plan, refuse, check_eq_ok] at hplan
termination_by sizeOf s

end Step

end QuadWalk
