import QuadWalk.Proofs.Closed
import QuadWalk.Proofs.Listed

/-!
# Following a fragment and writing it out

A fragment is a chain of operations on its placeholder. To follow it from a step is to have the
chain act on the results of that step, so one might as well write the step in place of the
placeholder (`Step.inlinedIn`). `Step.follow_eq_inlined` says when planning sees no difference: not
only do both mean the same, they get one and the same plan, anchors and identities included.

## What differs

The operations of the chain see the same bindings in both, but for their placeholder. What stands at
the side of the chain, which is the property of a traversal or a step of a set operation, does not:
it is planned under the bindings around the chain. These are the bindings around the whole step
where it is written out, and those after the origin where it is followed. A count in the origin
leaves no tag in scope, so in a fragment a side that goes back to a tag may be refused, although it
is accepted where the step is written out (`Step.not_follow_eq_inlined`).
-/

namespace QuadWalk

/-! ### Other placeholders -/

namespace Bindings

variable (base branch : Bindings) (q : PlanRef)

theorem mergeExports_withPlaceholder :
    (base.withPlaceholder q).mergeExports branch =
      (base.mergeExports branch).withPlaceholder q := by
  have hadopt (merged : Bindings) (t : String) :
      adopt (base.withPlaceholder q) branch (merged.withPlaceholder q) t =
        (adopt base branch merged t).withPlaceholder q := by
    have hfind : (base.withPlaceholder q).find? t = base.find? t := rfl
    simp only [adopt, hfind]
    cases branch.find? t with
    | none => rfl
    | some p =>
      by_cases same : (base.find? t).map (·.id) = some p.id
      · simp only [if_pos same]
      · simp only [if_neg same]
        rfl
  have step : ∀ (tags : List String) (merged : Bindings),
      tags.foldl (adopt (base.withPlaceholder q) branch) (merged.withPlaceholder q) =
        (tags.foldl (adopt base branch) merged).withPlaceholder q := by
    intro tags
    induction tags with
    | nil => exact fun _ => rfl
    | cons t tags ih => exact fun merged => by rw [List.foldl_cons, hadopt, ih, List.foldl_cons]
  exact step branch.names base

theorem foldl_mergeExports_withPlaceholder {α : Type} (f : α → Bindings) (branches : List α) :
    branches.foldl (fun merged b => merged.mergeExports (f b)) (base.withPlaceholder q) =
      (branches.foldl (fun merged b => merged.mergeExports (f b)) base).withPlaceholder q := by
  induction branches generalizing base with
  | nil => rfl
  | cons b branches ih => rw [List.foldl_cons, mergeExports_withPlaceholder, ih, List.foldl_cons]

/-- Merging keeps the placeholder of the base. -/
@[simp]
theorem placeholder_mergeExports : (base.mergeExports branch).placeholder = base.placeholder := by
  have h := congrArg placeholder (mergeExports_withPlaceholder base branch base.placeholder)
  exact h

theorem placeholder_foldl_mergeExports {α : Type} (f : α → Bindings) (branches : List α) :
    (branches.foldl (fun merged b => merged.mergeExports (f b)) base).placeholder =
      base.placeholder := by
  induction branches generalizing base with
  | nil => rfl
  | cons b branches ih => rw [List.foldl_cons, ih, placeholder_mergeExports]

end Bindings

/-- The same plan, with another placeholder in the bindings after it. -/
def Planned.withPlaceholder (p : Planned) (q : PlanRef) : Planned :=
  ⟨p.ref, p.bindings.withPlaceholder q⟩

namespace Step

open Planner

variable {sizeLimit : Nat} {s o t f x : Step} {e : Bindings} {n m k : Supply} {p px : Planned}

theorem placeholder_saveEach {d : Direction} {names : List String} {po : Planned}
    (h : saveEach d names po k = .ok (p, m)) :
    p.bindings.placeholder = po.bindings.placeholder :=
  saveEach_induction (P := fun q _ => q.bindings.placeholder = po.bindings.placeholder) h rfl
    fun _ _ _ hq => hq

/-- **Planning hands the placeholder on.** -/
theorem placeholder_of_plans (h : Plans sizeLimit s e n p m) :
    p.bindings.placeholder = e.placeholder := by
  induction h with
  | entities | vertex | placeholder => rfl
  | apply _ _ iho => exact iho
  | visit _ _ iho _ => exact iho
  | has _ _ _ iho _ => exact iho
  | combine _ _ _ _ iho _ => exact iho
  | properties _ _ saved iho => exact (placeholder_saveEach saved).trans iho
  | propertyNamesAs _ iho => exact iho
  | tagged _ _ iho => exact iho
  | count _ iho => exact iho
  | whereAll _ _ _ _ iho _ => exact (Bindings.placeholder_foldl_mergeExports _ _ _).trans iho
  | optional _ _ iho _ => exact (Bindings.placeholder_mergeExports _ _).trans iho
  | follow _ _ iho _ => exact iho

/-! ### What stands in a planned step is accepted -/

theorem Stands.trans {c c' c'' : Around} (h : Stands s c t c') (h' : Stands t c' o c'') :
    Stands s c o c'' := by
  induction h with
  | here => exact h'
  | previous ho _ ih => exact .previous ho (ih h')
  | visited _ ih => exact .visited (ih h')
  | had _ ih => exact .had (ih h')
  | combined hb _ ih => exact .combined hb (ih h')
  | condition hb _ ih => exact .condition hb (ih h')
  | option _ ih => exact .option (ih h')
  | fragment _ ih => exact .fragment (ih h')

/-- Where a step is accepted, so is what stands in it under the same bindings, with any numbers. -/
theorem succeeds_plan_of_stands (h : Succeeds (s.plan sizeLimit e) n)
    (ht : ∀ c, Stands s c t c) (l : Supply) : Succeeds (t.plan sizeLimit e) l :=
  (succeeds_plan_iff (knows_names e)).2 fun o c' ho =>
    (succeeds_plan_iff (knows_names e)).1 h o c' ((ht _).trans ho)

/-! ### Fragments -/

/-- A step written out in place of the placeholder to which the origins of a fragment lead. -/
def inlinedIn (x : Step) : Step → Step
  | placeholder => x
  | entities ids => entities ids
  | vertex values => vertex values
  | visit t o property => visit t (inlinedIn x o) property
  | back o => back (inlinedIn x o)
  | backTo o tag => backTo (inlinedIn x o) tag
  | properties d o names => properties d (inlinedIn x o) names
  | propertyNames d o => propertyNames d (inlinedIn x o)
  | propertyNamesAs d o tag => propertyNamesAs d (inlinedIn x o) tag
  | has d o property values => has d (inlinedIn x o) property values
  | isOneOf o values => isOneOf (inlinedIn x o) values
  | combine operation o ss => combine operation (inlinedIn x o) ss
  | filter o condition => filter (inlinedIn x o) condition
  | compare c o operand => compare c (inlinedIn x o) operand
  | count o => count (inlinedIn x o)
  | limit o n => limit (inlinedIn x o) n
  | skip o n => skip (inlinedIn x o) n
  | unique o => unique (inlinedIn x o)
  | order o => order (inlinedIn x o)
  | tagged o name => tagged (inlinedIn x o) name
  | whereAll o ss => whereAll (inlinedIn x o) ss
  | optional o s => optional (inlinedIn x o) s
  | follow o s => follow (inlinedIn x o) s
  | select o tags => select (inlinedIn x o) tags
  | selectFirst o => selectFirst (inlinedIn x o)
  | documents o => documents (inlinedIn x o)

/-- The steps at the side of a chain: properties of traversals and steps of set operations. They are
planned under the bindings around the chain. -/
def sides : Step → List Step
  | entities _ | vertex _ | placeholder => []
  | visit _ o property | has _ o property _ => property :: sides o
  | combine _ o ss => ss ++ sides o
  | back o | backTo o _ | properties _ o _ | propertyNames _ o | propertyNamesAs _ o _ | isOneOf o _
  | filter o _ | compare _ o _ | count o | limit o _ | skip o _ | unique o | order o | tagged o _
  | whereAll o _ | optional o _ | follow o _ | select o _ | selectFirst o | documents o => sides o

/-- A step is a chain of operations on its placeholder, and what stands at the side of the chain
does not look at it. -/
structure IsFragment (f : Step) : Prop where
  isRooted : f.isRooted = true
  isClosed : ∀ s ∈ f.sides, s.isClosed = true

theorem sides_of_previous (ho : f.previous? = some o) : o.sides ⊆ f.sides := by
  revert ho
  fun_cases previous? f <;> simp only [Option.some.injEq, reduceCtorEq, false_implies] <;>
    rintro rfl <;> simp [sides]

theorem isRooted_of_previous (ho : f.previous? = some o) : f.isRooted = o.isRooted := by
  revert ho
  fun_cases previous? f <;> simp only [Option.some.injEq, reduceCtorEq, false_implies] <;>
    rintro rfl <;> simp [isRooted]

theorem previous_inlinedIn (x : Step) (ho : f.previous? = some o) :
    (x.inlinedIn f).previous? = some (x.inlinedIn o) := by
  revert ho
  fun_cases previous? f <;> simp only [Option.some.injEq, reduceCtorEq, false_implies] <;>
    rintro rfl <;> simp [inlinedIn, previous?]

/-- The step that is written out stands where the placeholder did. -/
theorem stands_inlinedIn {f : Step} (x : Step) (hf : f.isRooted = true) (c : Around) :
    Stands (x.inlinedIn f) c x c := by
  cases ho : f.previous? with
  | none =>
    cases f with
    | placeholder => exact .here
    | entities | vertex => simp [isRooted] at hf
    | _ => simp [previous?] at ho
  | some o =>
    have := sizeOf_lt_of_previous ho
    exact .previous (previous_inlinedIn x ho) (stands_inlinedIn x (isRooted_of_previous ho ▸ hf) c)
termination_by sizeOf f

/-- What stands at the side of a fragment still does when a step is written out. -/
theorem mem_sides_inlinedIn {f : Step} (x : Step) (hs : s ∈ f.sides) :
    s ∈ (x.inlinedIn f).sides := by
  have of_previous {o : Step} (ho : f.previous? = some o) (hs : s ∈ o.sides) :
      s ∈ (x.inlinedIn f).sides := by
    have := sizeOf_lt_of_previous ho
    exact sides_of_previous (previous_inlinedIn x ho) (mem_sides_inlinedIn x hs)
  cases f with
  | entities | vertex | placeholder => simp [sides] at hs
  | visit t o property =>
    rcases List.mem_cons.1 hs with rfl | hs
    · exact List.mem_cons_self
    · exact of_previous rfl hs
  | has d o property values =>
    rcases List.mem_cons.1 hs with rfl | hs
    · exact List.mem_cons_self
    · exact of_previous rfl hs
  | combine operation o ss =>
    rcases List.mem_append.1 hs with hs | hs
    · exact List.mem_append_left _ hs
    · exact of_previous rfl hs
  | _ => exact of_previous rfl hs
termination_by sizeOf f

/-- What stands at the side of a chain stands under the bindings around the chain. -/
theorem stands_of_mem_sides {f : Step} (hs : s ∈ f.sides) (c : Around) : Stands f c s c := by
  have of_previous {o : Step} (ho : f.previous? = some o) (hs : s ∈ o.sides) : Stands f c s c := by
    have := sizeOf_lt_of_previous ho
    exact .previous ho (stands_of_mem_sides hs c)
  cases f with
  | entities | vertex | placeholder => simp [sides] at hs
  | visit t o property =>
    rcases List.mem_cons.1 hs with rfl | hs
    · exact .visited .here
    · exact of_previous rfl hs
  | has d o property values =>
    rcases List.mem_cons.1 hs with rfl | hs
    · exact .had .here
    · exact of_previous rfl hs
  | combine operation o ss =>
    rcases List.mem_append.1 hs with hs | hs
    · exact .combined hs .here
    · exact of_previous rfl hs
  | _ => exact of_previous rfl hs
termination_by sizeOf f

end Step

/-! ### Planners that lead to the same -/

namespace Planner

variable {α α' β β' : Type} {R : α → α' → Prop} {S : β → β' → Prop} {n k : Supply}

/-- If one planner succeeds, another one does, too, with a related result; they may begin with
different numbers, but leave the same. -/
def Leads (R : α → α' → Prop) (x : Planner α) (x' : Planner α') (n k : Supply) : Prop :=
  ∀ ⦃a m⦄, x n = .ok (a, m) → ∃ a', x' k = .ok (a', m) ∧ R a a'

theorem Leads.bind {x : Planner α} {x' : Planner α'} {f : α → Planner β} {f' : α' → Planner β'}
    (hx : Leads R x x' n k) (hf : ∀ a a' m, R a a' → Leads S (f a) (f' a') m m) :
    Leads S (x >>= f) (x' >>= f') n k := by
  intro b m h
  obtain ⟨a, l, ha, hb⟩ := bind_eq_ok.1 h
  obtain ⟨a', ha', hR⟩ := hx ha
  obtain ⟨b', hb', hS⟩ := hf a a' l hR hb
  exact ⟨b', bind_ok ha' hb', hS⟩

theorem Leads.refl (x : Planner α) : Leads (· = ·) x x n n := fun a _ h => ⟨a, h, rfl⟩

theorem Leads.pure {a : α} {a' : α'} (h : R a a') : Leads R (pure a) (pure a') n n := by
  intro b m hb
  obtain ⟨rfl, rfl⟩ := pure_eq_ok.1 hb
  exact ⟨a', rfl, h⟩

/-- A check uses up no numbers, so it may come first. -/
theorem Leads.check {found : Except QueryError α} {f : α → Planner β} {f' : α → Planner β'}
    (hf : ∀ a, found = .ok a → Leads S (f a) (f' a) n k) :
    Leads S (check found >>= f) (check found >>= f') n k := by
  intro b m h
  obtain ⟨a, l, ha, hb⟩ := bind_eq_ok.1 h
  obtain ⟨hfound, rfl⟩ := check_eq_ok.1 ha
  obtain ⟨b', hb', hS⟩ := hf a hfound hb
  exact ⟨b', bind_ok (check_ok hfound) hb', hS⟩

theorem Leads.require {condition : Bool} {fault : StepFault} {f : Unit → Planner β}
    {f' : Unit → Planner β'} (hf : Leads S (f ()) (f' ()) n k) :
    Leads S (require condition fault >>= f) (require condition fault >>= f') n k := by
  intro b m h
  obtain ⟨_, l, ha, hb⟩ := bind_eq_ok.1 h
  obtain ⟨hcondition, rfl⟩ := require_eq_ok.1 ha
  obtain ⟨b', hb', hS⟩ := hf hb
  exact ⟨b', bind_ok (require_ok hcondition) hb', hS⟩

/-- The same, but for the placeholder in the bindings. -/
def Moved (q : PlanRef) (p p' : Planned) : Prop := p' = p.withPlaceholder q

variable (q : PlanRef)

theorem leads_planned (p : Plan) (e : Bindings) :
    Leads (Moved q) (planned p e) (planned p (e.withPlaceholder q)) n n := by
  refine (Leads.refl _).bind ?_
  rintro r _ m rfl
  exact .pure rfl

theorem leads_binding (tag : String) (p : Plan) (e : Bindings) :
    Leads (Moved q) (binding tag p e) (binding tag p (e.withPlaceholder q)) n n := by
  refine (Leads.refl _).bind ?_
  rintro r _ m rfl
  exact .pure rfl

theorem leads_saveEach (d : Direction) (names : List String) (o : Planned) :
    Leads (Moved q) (saveEach d names o) (saveEach d names (o.withPlaceholder q)) n n := by
  induction names generalizing o n with
  | nil => exact .pure rfl
  | cons name names ih =>
    rw [saveEach, saveEach]
    refine (leads_binding q _ _ _).bind ?_
    rintro o _ m rfl
    exact ih o

end Planner

namespace Step

open Planner

variable {sizeLimit : Nat} {s o f x : Step} {e : Bindings} {n m k : Supply} {p px : Planned}

theorem leads_planEach {ss : List Step} {e e' : Bindings}
    (h : ∀ b ∈ ss, ∀ l, Leads SamePlan (b.plan sizeLimit e) (b.plan sizeLimit e') l l) :
    Leads (fun ps ps' => ps.map Planned.ref = ps'.map Planned.ref)
      (planEach sizeLimit ss e) (planEach sizeLimit ss e') n n := by
  induction ss generalizing n with
  | nil => exact .pure rfl
  | cons b ss ih =>
    rw [planEach, planEach]
    refine (h b List.mem_cons_self n).bind fun p p' l (hp : p.ref = p'.ref) => ?_
    refine (ih fun b' hb' => h b' (List.mem_cons_of_mem _ hb')).bind fun ps ps' l hps => .pure ?_
    rw [List.map_cons, List.map_cons, hp, hps]

section Origins

variable {o' : Step} {e' : Bindings} {q : PlanRef}

/-- What an operation makes of an origin does not depend on the placeholder in its bindings. -/
theorem leads_make {make : Planned → Planner Planned} (h : Makes sizeLimit o s make)
    (po : Planned) : Leads (Moved q) (make po) (make (po.withPlaceholder q)) n n := by
  cases h with
  | put | count => exact leads_planned _ _ _
  | back => exact .require (leads_planned _ _ _)
  | @backTo tag =>
    have hcontains : (po.withPlaceholder q).bindings.contains tag = po.bindings.contains tag := rfl
    rw [putBackTo, putBackTo, hcontains]
    split
    · exact leads_planned _ _ _
    · intro p m h
      simp [check_eq_ok] at h
  | properties => exact leads_saveEach _ _ _ po
  | propertyNamesAs | tagged => exact leads_binding _ _ _ _

/-- One and the same operation leads from one origin to another if the origins do. -/
theorem leads_operation {s' : Step} {finish : Except QueryError (Planned → Planner Planned)}
    (h : s.operation? sizeLimit = some ⟨o, finish⟩)
    (h' : s'.operation? sizeLimit = some ⟨o', finish⟩)
    (ho : Leads (Moved q) (o.plan sizeLimit e) (o'.plan sizeLimit e') n k) :
    Leads (Moved q) (s.plan sizeLimit e) (s'.plan sizeLimit e') n k := by
  rw [plan_of_operation h, plan_of_operation h']
  refine .check ?_
  rintro make rfl
  refine ho.bind ?_
  rintro po _ l rfl
  exact leads_make (makes_of_operation h) po

/-- The branches of a condition have the anchor for their placeholder in either place. -/
theorem leads_whereAll (ss : List Step)
    (ho : Leads (Moved q) (o.plan sizeLimit e) (o'.plan sizeLimit e') n k) :
    Leads (Moved q) ((whereAll o ss).plan sizeLimit e) ((whereAll o' ss).plan sizeLimit e')
      n k := by
  rw [plan, plan]
  refine .require (ho.bind ?_)
  rintro o _ l rfl
  refine (Leads.refl _).bind ?_
  rintro id _ l rfl
  refine (Leads.refl _).bind ?_
  rintro ref _ l rfl
  refine (Leads.refl (planEach sizeLimit ss (o.bindings.withPlaceholder ref))).bind ?_
  rintro branches _ l rfl
  have hexported := Bindings.foldl_mergeExports_withPlaceholder o.bindings q
    Planned.bindings branches
  show Leads _ _ (planned _ (branches.foldl (fun merged b => merged.mergeExports b.bindings)
    (o.bindings.withPlaceholder q))) l l
  rw [hexported]
  exact leads_planned _ _ _

theorem leads_optional (b : Step)
    (ho : Leads (Moved q) (o.plan sizeLimit e) (o'.plan sizeLimit e') n k) :
    Leads (Moved q) ((optional o b).plan sizeLimit e) ((optional o' b).plan sizeLimit e') n k := by
  rw [plan, plan]
  refine ho.bind ?_
  rintro o _ l rfl
  refine (Leads.refl _).bind ?_
  rintro id _ l rfl
  refine (Leads.refl _).bind ?_
  rintro ref _ l rfl
  refine (Leads.refl (b.plan sizeLimit (o.bindings.withPlaceholder ref))).bind ?_
  rintro branch _ l rfl
  show Leads _ _ (planned _ ((o.bindings.withPlaceholder q).mergeExports branch.bindings)) l l
  rw [Bindings.mergeExports_withPlaceholder]
  exact leads_planned _ _ _

end Origins

/-- **A step that is written out leads to what following it does**, if the sides of the fragment
lead to the same plans as under the bindings around it. -/
theorem leads_inlinedIn {f : Step} (hx : x.plan sizeLimit e n = .ok (px, k))
    (hf : f.isRooted = true)
    (hsides : ∀ s ∈ f.sides, ∀ l, Leads SamePlan (s.plan sizeLimit e)
      (s.plan sizeLimit (px.bindings.withPlaceholder px.ref)) l l) :
    Leads (Moved px.ref) ((x.inlinedIn f).plan sizeLimit e)
      (f.plan sizeLimit (px.bindings.withPlaceholder px.ref)) n k := by
  have of_previous {o : Step} (ho : f.previous? = some o) :
      Leads (Moved px.ref) ((x.inlinedIn o).plan sizeLimit e)
        (o.plan sizeLimit (px.bindings.withPlaceholder px.ref)) n k := by
    have := sizeOf_lt_of_previous ho
    exact leads_inlinedIn hx (isRooted_of_previous ho ▸ hf)
      fun s hs => hsides s (sides_of_previous ho hs)
  cases f with
  | entities | vertex => simp [isRooted] at hf
  | placeholder =>
    intro p m h
    rw [inlinedIn, hx] at h
    cases h
    exact ⟨_, by rw [plan]; rfl, rfl⟩
  | back | backTo | properties | propertyNames | propertyNamesAs | isOneOf | filter | compare
  | count | limit | skip | unique | order | tagged =>
    rw [inlinedIn]
    exact leads_operation rfl rfl (of_previous rfl)
  | visit t o property =>
    rw [inlinedIn, plan, plan]
    refine (of_previous rfl).bind ?_
    rintro o _ l rfl
    refine (hsides property (by simp [sides]) l).bind fun via via' l hvia => ?_
    rw [show via.ref = via'.ref from hvia]
    exact leads_planned _ _ _
  | has d o property values =>
    rw [inlinedIn, plan, plan]
    refine .require ((of_previous rfl).bind ?_)
    rintro o _ l rfl
    refine (hsides property (by simp [sides]) l).bind fun via via' l hvia => ?_
    rw [show via.ref = via'.ref from hvia]
    exact leads_planned _ _ _
  | combine operation o ss =>
    rw [inlinedIn, plan, plan]
    refine (of_previous rfl).bind ?_
    rintro o _ l rfl
    refine (Leads.refl _).bind fun _ _ l _ => ?_
    refine (leads_planEach fun b hb => hsides b (by simp [sides, hb])).bind fun ps ps' l hps => ?_
    rw [map_plan_eq hps]
    exact leads_planned _ _ _
  | whereAll o ss =>
    rw [inlinedIn]
    exact leads_whereAll ss (of_previous rfl)
  | optional o b =>
    rw [inlinedIn]
    exact leads_optional b (of_previous rfl)
  | follow o b =>
    rw [inlinedIn, plan, plan]
    refine (of_previous rfl).bind ?_
    rintro o _ l rfl
    refine (Leads.refl (b.plan sizeLimit (o.bindings.withPlaceholder o.ref))).bind ?_
    rintro fragment _ l rfl
    exact .pure rfl
  | select | selectFirst | documents =>
    intro p m h
    simp [inlinedIn, plan, refuse, check_eq_ok] at h
termination_by sizeOf f

/-- If the sides of a fragment are accepted after the step that it follows, it gets the plan and the
bindings that it has when that step is written out. -/
theorem follow_plan_of_sides (hf : f.IsFragment) (hx : x.plan sizeLimit e n = .ok (px, k))
    (hsides : ∀ s ∈ f.sides,
      Succeeds (s.plan sizeLimit (px.bindings.withPlaceholder px.ref)) k)
    (h : (x.inlinedIn f).plan sizeLimit e n = .ok (p, m)) :
    (follow x f).plan sizeLimit e n = .ok (p, m) := by
  have hleads : ∀ s ∈ f.sides, ∀ l, Leads SamePlan (s.plan sizeLimit e)
      (s.plan sizeLimit (px.bindings.withPlaceholder px.ref)) l l := by
    intro s hs l via l' hvia
    obtain ⟨via', m', hvia'⟩ : Succeeds
        (s.plan sizeLimit (px.bindings.withPlaceholder px.ref)) l :=
      succeeds_plan_of_wider (hsides s hs) (fun _ ht => ht) (.inr rfl)
    obtain ⟨hsame, rfl⟩ := agree_plan (.inl (hf.isClosed s hs)) hvia hvia'
    exact ⟨via', hvia', hsame⟩
  obtain ⟨_, hplan, rfl⟩ := leads_inlinedIn hx hf.isRooted hleads h
  rw [plan]
  refine bind_ok hx (bind_ok hplan (pure_eq_ok.2 ⟨?_, rfl⟩))
  -- the placeholder around the step is restored
  have hplaceholder : px.bindings.placeholder = p.bindings.placeholder := by
    rw [placeholder_of_plans (plans_of_plan hx), placeholder_of_plans (plans_of_plan h)]
  show Planned.mk p.ref (p.bindings.withPlaceholder px.bindings.placeholder) = p
  rw [hplaceholder]
  rfl

/-- The sides of a fragment that can be followed are accepted after the step that it follows. -/
theorem succeeds_side_of_follow (hx : x.plan sizeLimit e n = .ok (px, k))
    (h : Succeeds ((follow x f).plan sizeLimit e) n) (hs : s ∈ f.sides) :
    Succeeds (s.plan sizeLimit (px.bindings.withPlaceholder px.ref)) k := by
  obtain ⟨p, m, hp⟩ := h
  rw [plan] at hp
  obtain ⟨px', k', hx', hp⟩ := bind_eq_ok.1 hp
  cases hx.symm.trans hx'
  obtain ⟨fragment, l, hfragment, -⟩ := bind_eq_ok.1 hp
  exact succeeds_plan_of_stands ⟨fragment, l, hfragment⟩ (stands_of_mem_sides hs) k

/-- **To follow a fragment is to write it out.** Whatever the bindings and the numbers with which
planning begins, let a fragment be accepted with a step written out in place of its placeholder.
Then the step is accepted, and following the fragment from it is accepted exactly if the sides of
the fragment are accepted after the step; if so, it gives the same plan, with the same anchors and
identities, the same bindings and the same placeholder, and uses up the same numbers. In particular
it is accepted if the tags in scope around the step are still in scope after it. -/
theorem follow_eq_inlined (hf : f.IsFragment)
    (h : (x.inlinedIn f).plan sizeLimit e n = .ok (p, m)) :
    ∃ px k, x.plan sizeLimit e n = .ok (px, k) ∧
      (Succeeds ((follow x f).plan sizeLimit e) n ↔ ∀ s ∈ f.sides,
        Succeeds (s.plan sizeLimit (px.bindings.withPlaceholder px.ref)) k) ∧
      (∀ p' m', (follow x f).plan sizeLimit e n = .ok (p', m') → p' = p ∧ m' = m) ∧
      ((∀ t, e.contains t = true → px.bindings.contains t = true) →
        (follow x f).plan sizeLimit e n = .ok (p, m)) := by
  obtain ⟨px, k, hx⟩ : Succeeds (x.plan sizeLimit e) n :=
    succeeds_plan_of_stands ⟨p, m, h⟩ (stands_inlinedIn x hf.isRooted) n
  refine ⟨px, k, hx, ⟨fun hfollow s hs => succeeds_side_of_follow hx hfollow hs, fun hsides =>
    ⟨p, m, follow_plan_of_sides hf hx hsides h⟩⟩, fun p' m' hfollow => ?_, fun htags => ?_⟩
  · have hsame := follow_plan_of_sides hf hx
      (fun s hs => succeeds_side_of_follow hx ⟨p', m', hfollow⟩ hs) h
    cases hfollow.symm.trans hsame
    exact ⟨rfl, rfl⟩
  · refine follow_plan_of_sides hf hx (fun s hs => ?_) h
    have hside : Succeeds (s.plan sizeLimit e) k :=
      succeeds_plan_of_stands ⟨p, m, h⟩ (stands_of_mem_sides (mem_sides_inlinedIn x hs)) k
    exact succeeds_plan_of_wider hside htags (.inl (hf.isClosed s hs))

/-- A person, by name. -/
def someone : Step := .tagged (.vertex [.iri "alice"]) "person"

/-- Those around a person who like someone that this person knows. -/
def likesAcquaintance : Step :=
  .whereAll
    (.combine .union (.visit .both .placeholder (.vertex [.iri "knows"]))
      [.visit .forward (.vertex [.iri "alice"]) (.vertex [.iri "likes"])])
    [.isOneOf (.tagged (.visit .forward .placeholder (.vertex [.iri "likes"])) "liked")
      [.iri "bob"], .backTo .placeholder "person"]

theorem follow_eq_inlined_likesAcquaintance :
    likesAcquaintance.IsFragment ∧ ∃ p m,
      (someone.inlinedIn likesAcquaintance).plan 0 .root {} = .ok (p, m) ∧
      (follow someone likesAcquaintance).plan 0 .root {} = .ok (p, m) := by
  have hfragment : likesAcquaintance.IsFragment := ⟨rfl, by decide⟩
  have hok : ((someone.inlinedIn likesAcquaintance).plan 0 .root {}).isOk = true := by
    decide +kernel
  obtain ⟨⟨p, m⟩, hp⟩ := exists_eq_ok_of_isOk hok
  obtain ⟨px, k, -, -, -, hfollow⟩ := follow_eq_inlined hfragment hp
  refine ⟨hfragment, p, m, hp, hfollow fun t ht => ?_⟩
  simp [Bindings.contains, Bindings.find?, Bindings.root] at ht

/-- A tag in scope. -/
def tagInScope : Bindings := Bindings.root.bind "t" { id := 1, plan := .tag .allNodes "t" }

/-- A fragment with a step at its side that goes back to the tag. -/
def backAtSide : Step := .combine .union .placeholder [.backTo (.vertex [.iri "bob"]) "t"]

/-- After a count, the tag is not in scope any more, so the fragment is refused; written out, the
step at its side sees the tag. -/
theorem not_follow_eq_inlined :
    ¬ ∀ (sizeLimit : Nat) (x f : Step) (e : Bindings) (n m : Supply) (p : Planned),
      f.IsFragment → (x.inlinedIn f).plan sizeLimit e n = .ok (p, m) →
        ∃ p' m', (follow x f).plan sizeLimit e n = .ok (p', m') ∧ p'.ref.plan = p.ref.plan ∧
          p'.bindings.names = p.bindings.names ∧
          p'.bindings.placeholder.plan = p.bindings.placeholder.plan := by
  intro h
  have hfragment : backAtSide.IsFragment := ⟨rfl, by decide⟩
  have hok : (((count placeholder).inlinedIn backAtSide).plan 0 tagInScope {}).isOk = true := by
    decide +kernel
  have hrefused : ((follow (count placeholder) backAtSide).plan 0 tagInScope {}).isOk = false := by
    decide +kernel
  obtain ⟨⟨p, m⟩, hp⟩ := exists_eq_ok_of_isOk hok
  obtain ⟨p', m', hp', -⟩ := h 0 (count placeholder) backAtSide tagInScope {} m p hfragment hp
  rw [hp'] at hrefused
  cases hrefused

end Step

end QuadWalk
