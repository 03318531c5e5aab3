import QuadWalk.Proofs.Computations
import QuadWalk.Proofs.Parts
import QuadWalk.Proofs.Undoing

/-!
# Which queries are accepted

`Step.WellFormed` says of a query, without planning it, what it takes to be accepted: result shapes
stand at the root only; each part is filled in; every tag that is gone back to or asked for is in
scope; and nothing is undone where it is known that there is nothing to undo. What is in scope and
what is known is read off the step (`Step.scope`, `Step.hop`), and handed on to where a part stands
(`Step.Stands`).

Planning accepts exactly these queries (`Step.prepare_isOk_iff_wellFormed`). It is true of any step
under any bindings that planning succeeds exactly if each step that stands in it is allowed there
(`Step.succeeds_plan_iff`): no check is left out anywhere, and no other one is made.
-/

namespace QuadWalk

/-! ### Planners that succeed -/

namespace Planner

variable {α β : Type} {n : Supply}

/-- Planning has a result. -/
def Succeeds (x : Planner α) (n : Supply) : Prop := ∃ a m, x n = .ok (a, m)

theorem Succeeds.bind {x : Planner α} {f : α → Planner β} (hx : Succeeds x n)
    (hf : ∀ a m, x n = .ok (a, m) → Succeeds (f a) m) : Succeeds (x >>= f) n := by
  obtain ⟨a, k, ha⟩ := hx
  obtain ⟨b, m, hb⟩ := hf a k ha
  exact ⟨b, m, bind_ok ha hb⟩

theorem succeeds_pure (a : α) : Succeeds (pure a) n := ⟨a, n, rfl⟩

theorem succeeds_check {found : Except QueryError α} {a : α} (h : found = .ok a) :
    Succeeds (check found) n :=
  ⟨a, n, check_ok h⟩

theorem succeeds_require {condition : Bool} {fault : StepFault} (h : condition = true) :
    Succeeds (require condition fault) n :=
  ⟨(), n, require_ok h⟩

theorem succeeds_identify (p : Plan) : Succeeds (identify p) n := ⟨_, _, rfl⟩

theorem succeeds_newAnchor : Succeeds newAnchor n := ⟨_, _, rfl⟩

theorem succeeds_planned (p : Plan) (e : Bindings) : Succeeds (planned p e) n :=
  (succeeds_identify p).bind fun _ _ _ => succeeds_pure _

theorem succeeds_binding (tag : String) (p : Plan) (e : Bindings) :
    Succeeds (binding tag p e) n :=
  (succeeds_identify p).bind fun _ _ _ => succeeds_pure _

theorem succeeds_saveEach (d : Direction) (names : List String) (o : Planned) :
    Succeeds (saveEach d names o) n := by
  induction names generalizing o n with
  | nil => exact succeeds_pure o
  | cons name names ih => exact (succeeds_binding _ _ _).bind fun o _ _ => ih o

end Planner

/-! ### Parts that are filled in -/

theorem EntityId.exists_value_eq_ok {id : EntityId} :
    (∃ v, id.value = .ok v) ↔ id ≠ .iri "" ∧ id ≠ .blank "" := by
  cases id with
  | iri text => by_cases h : text = "" <;> simp [value, h]
  | blank label => by_cases h : label = "" <;> simp [value, h]

theorem EntityId.exists_values_eq_ok {ids : List EntityId} :
    (∃ values, ids.mapM EntityId.value = .ok values) ↔ .iri "" ∉ ids ∧ .blank "" ∉ ids := by
  have hall : (∃ values, ids.mapM EntityId.value = .ok values) ↔
      ∀ id ∈ ids, ∃ v, id.value = .ok v := by
    constructor
    · rintro ⟨values, hvalues⟩ id hid
      have hmem : id.value ∈ values.map .ok := by
        rw [← mapM_ok_iff.1 hvalues]
        exact List.mem_map_of_mem hid
      obtain ⟨v, -, hv⟩ := List.mem_map.1 hmem
      exact ⟨v, hv.symm⟩
    · intro h
      obtain ⟨values, hvalues⟩ := exists_map_eq_ok h
      exact ⟨values, mapM_ok_iff.2 hvalues⟩
  simp only [hall, EntityId.exists_value_eq_ok]
  constructor
  · exact fun h => ⟨fun hid => (h _ hid).1 rfl, fun hid => (h _ hid).2 rfl⟩
  · rintro ⟨hiri, hblank⟩ id hid
    exact ⟨fun heq => hiri (heq ▸ hid), fun heq => hblank (heq ▸ hid)⟩

theorem Comparison.checkOperand_eq_ok {c : Comparison} {operand : Value} :
    c.checkOperand operand = .ok () ↔
      (∀ label, operand ≠ .blank label) ∧ ∀ x, operand = .float x → x.isNaN = false := by
  have horderable : c.checkOperand operand = .ok () ↔ ¬ operand.isOrderable = false := by
    unfold checkOperand
    cases operand.isOrderable <;> simp
  rw [horderable, Value.isOrderable_eq_false_iff, not_or]
  simp

namespace Step

open Planner

/-- Whether a step asks for a result shape. -/
def isReport : Step → Bool
  | select _ _ | selectFirst _ | documents _ => true
  | _ => false

/-- Nothing that a step needs is missing in it: identifiers and tags have names, lists have
elements, patterns can be made within a limit, and operands can be compared. -/
def IsFilledIn (sizeLimit : Nat) : Step → Prop
  | entities ids => .iri "" ∉ ids ∧ .blank "" ∉ ids
  | properties _ _ names => names ≠ []
  | has _ _ _ values | isOneOf _ values => values ≠ []
  | combine _ _ ss | whereAll _ ss => ss ≠ []
  | filter _ condition => ∃ matcher, TextMatcher.compile condition sizeLimit = .ok matcher
  | compare _ _ operand =>
    (∀ label, operand ≠ .blank label) ∧ ∀ x, operand = .float x → x.isNaN = false
  | tagged _ name => name ≠ ""
  | _ => True

/-! ### Steps that are allowed where they stand -/

/-- A step may stand where something is known around it. -/
structure Allowed (sizeLimit : Nat) (t : Step) (c : Around) : Prop where
  isReport : t.isReport = false
  isFilledIn : t.IsFilledIn sizeLimit
  undoes : ∀ o, t = .back o → o.hop c.trail ≠ .absent
  resolves : ∀ o tag, t = .backTo o tag → tag ∈ o.scope c.tags

variable {sizeLimit : Nat} {s o t : Step} {e : Bindings} {n m k : Supply} {p : Planned}
  {c c' : Around}

theorem allowed_of_applies {po : Planned} {q : Plan} (h : Applies sizeLimit o po t q)
    (htags : Binds po.bindings (o.scope c.tags)) (htrail : po.ref.plan.hopState = o.hop c.trail) :
    t.Allowed sizeLimit c := by
  cases h with
  | back hstate =>
    refine ⟨rfl, trivial, fun o' heq => ?_, nofun⟩
    cases heq
    exact htrail ▸ hstate
  | backTo hcontains =>
    refine ⟨rfl, trivial, nofun, fun o' tag' heq => ?_⟩
    cases heq
    exact (htags _).1 hcontains
  | isOneOf hvalues => exact ⟨rfl, hvalues, nofun, nofun⟩
  | filter hm => exact ⟨rfl, ⟨_, hm⟩, nofun, nofun⟩
  | compare hc => exact ⟨rfl, Comparison.checkOperand_eq_ok.1 hc, nofun, nofun⟩
  | propertyNames | limit | skip | unique | order => exact ⟨rfl, trivial, nofun, nofun⟩

/-- A step that is planned is allowed where it stands. -/
theorem allowed_of_plans (h : Plans sizeLimit t e n p m) (he : Knows e c) :
    t.Allowed sizeLimit c := by
  cases h with
  | apply origin ha =>
    refine allowed_of_applies ha (contains_of_plans origin he.tags) ?_
    rw [hopState_of_plans origin, he.trail]
  | entities hv => exact ⟨rfl, EntityId.exists_values_eq_ok.1 ⟨_, hv⟩, nofun, nofun⟩
  | has hvalues => exact ⟨rfl, hvalues, nofun, nofun⟩
  | combine hbs => exact ⟨rfl, by simpa [IsFilledIn] using hbs, nofun, nofun⟩
  | properties hnames => exact ⟨rfl, hnames, nofun, nofun⟩
  | tagged hname => exact ⟨rfl, hname, nofun, nofun⟩
  | whereAll hbs => exact ⟨rfl, by simpa [IsFilledIn] using hbs, nofun, nofun⟩
  | vertex | placeholder | visit | propertyNamesAs | count | optional | follow =>
    exact ⟨rfl, trivial, nofun, nofun⟩

/-- The checks that an operation makes first pass if it is filled in. -/
theorem exists_make_of_isFilledIn {finish : Except QueryError (Planned → Planner Planned)}
    (h : s.operation? sizeLimit = some ⟨o, finish⟩) (hfilled : s.IsFilledIn sizeLimit) :
    ∃ make, finish = .ok make := by
  cases s with
  | back | backTo | propertyNames | propertyNamesAs | count | limit | skip | unique | order =>
    cases h
    exact ⟨_, rfl⟩
  | properties | isOneOf | tagged =>
    cases h
    exact ⟨_, provided_eq_ok.2 ⟨by simpa [IsFilledIn] using hfilled, rfl⟩⟩
  | filter =>
    cases h
    obtain ⟨matcher, hmatcher⟩ := hfilled
    exact ⟨_, map_ok_iff.2 ⟨matcher, hmatcher, rfl⟩⟩
  | compare comparison _ operand =>
    cases h
    have hoperand : comparison.checkOperand operand = .ok () :=
      Comparison.checkOperand_eq_ok.2 hfilled
    exact ⟨_, map_ok_iff.2 ⟨(), mapError_ok_iff.2 hoperand, rfl⟩⟩
  | _ => cases h

/-- What an operation makes of its planned origin, it makes if it is allowed where it stands. -/
theorem succeeds_make {make : Planned → Planner Planned} {po : Planned}
    (h : Makes sizeLimit o s make) (hself : s.Allowed sizeLimit c)
    (htags : Binds po.bindings (o.scope c.tags)) (htrail : po.ref.plan.hopState = o.hop c.trail)
    (n : Supply) : Succeeds (make po) n := by
  cases h with
  | put | count => exact succeeds_planned _ _
  | back =>
    have hstate : po.ref.plan.hopState ≠ .absent := htrail ▸ hself.undoes o rfl
    exact (succeeds_require (by simpa using hstate)).bind fun _ _ _ => succeeds_planned _ _
  | backTo =>
    rw [putBackTo, if_pos ((htags _).2 (hself.resolves o _ rfl))]
    exact succeeds_planned _ _
  | properties => exact succeeds_saveEach _ _ po
  | propertyNamesAs | tagged => exact succeeds_binding _ _ _

/-- An operation is accepted if it is allowed where it stands and its origin is accepted. -/
theorem succeeds_operation {finish : Except QueryError (Planned → Planner Planned)}
    (h : s.operation? sizeLimit = some ⟨o, finish⟩) (hself : s.Allowed sizeLimit c)
    (he : Knows e c) (ho : Succeeds (o.plan sizeLimit e) n) : Succeeds (s.plan sizeLimit e) n := by
  obtain ⟨make, rfl⟩ := exists_make_of_isFilledIn h hself.isFilledIn
  rw [plan_of_operation h]
  refine (succeeds_check rfl).bind fun _ k hmake => ?_
  obtain ⟨hmake, rfl⟩ := check_eq_ok.1 hmake
  cases hmake
  refine ho.bind fun po k hpo => ?_
  have horigin := plans_of_plan hpo
  have htrail : po.ref.plan.hopState = o.hop c.trail := by
    rw [hopState_of_plans horigin, he.trail]
  exact succeeds_make (makes_of_operation h) hself (contains_of_plans horigin he.tags) htrail k

theorem succeeds_planEach {ss : List Step}
    (h : ∀ b ∈ ss, ∀ n, Succeeds (b.plan sizeLimit e) n) (n : Supply) :
    Succeeds (planEach sizeLimit ss e) n := by
  induction ss generalizing n with
  | nil => exact succeeds_pure _
  | cons b ss ih =>
    rw [planEach]
    refine (h b List.mem_cons_self n).bind fun _ k _ => ?_
    refine (ih (fun b' hb' => h b' (List.mem_cons_of_mem _ hb')) k).bind fun _ _ _ => ?_
    exact succeeds_pure _

/-- Of the bindings in a condition on a planned origin is known what it binds, and nothing of the
anchor. -/
theorem knows_anchor {po : Planned} {ref : PlanRef} {id : AnchorId} {l : Supply}
    (ho : o.plan sizeLimit e n = .ok (po, k)) (he : Knows e c)
    (href : identify (.anchor id) l = .ok (ref, m)) :
    Knows (po.bindings.withPlaceholder ref) ⟨o.scope c.tags, .unknown⟩ := by
  obtain ⟨rfl, -⟩ := identify_eq_ok.1 href
  exact ⟨contains_of_plans (plans_of_plan ho) he.tags, rfl⟩

/-- A condition is accepted if its origin and its branches are. -/
theorem succeeds_whereAll {ss : List Step} (hss : ss ≠ []) (he : Knows e c)
    (ho : ∀ n, Succeeds (o.plan sizeLimit e) n)
    (hbranches : ∀ b ∈ ss, ∀ f, Knows f ⟨o.scope c.tags, .unknown⟩ →
      ∀ n, Succeeds (b.plan sizeLimit f) n) (n : Supply) :
    Succeeds ((whereAll o ss).plan sizeLimit e) n := by
  rw [plan]
  refine (succeeds_require (by simpa using hss)).bind fun _ k _ => ?_
  refine (ho k).bind fun po l hpo => ?_
  refine succeeds_newAnchor.bind fun id l _ => (succeeds_identify _).bind fun ref l href => ?_
  have hall : ∀ b ∈ ss, ∀ n, Succeeds (b.plan sizeLimit (po.bindings.withPlaceholder ref)) n :=
    fun b hb => hbranches b hb _ (knows_anchor hpo he href)
  exact (succeeds_planEach hall l).bind fun _ _ _ => succeeds_planned _ _

theorem succeeds_optional {b : Step} (he : Knows e c) (ho : Succeeds (o.plan sizeLimit e) n)
    (hb : ∀ f, Knows f ⟨o.scope c.tags, .unknown⟩ → ∀ n, Succeeds (b.plan sizeLimit f) n) :
    Succeeds ((optional o b).plan sizeLimit e) n := by
  rw [plan]
  refine ho.bind fun po k hpo => ?_
  refine succeeds_newAnchor.bind fun id l _ => (succeeds_identify _).bind fun ref l href => ?_
  exact (hb _ (knows_anchor hpo he href) l).bind fun _ _ _ => succeeds_planned _ _

/-- **Planning succeeds if each step is allowed where it stands.** -/
theorem succeeds_plan {s : Step} {c : Around} {e : Bindings}
    (hs : ∀ t c', Stands s c t c' → t.Allowed sizeLimit c') (he : Knows e c) (n : Supply) :
    Succeeds (s.plan sizeLimit e) n := by
  have hself := hs s c .here
  have hfilled := hself.isFilledIn
  have of_previous {o : Step} (ho : s.previous? = some o) (n : Supply) :
      Succeeds (o.plan sizeLimit e) n := by
    have := sizeOf_lt_of_previous ho
    exact succeeds_plan (fun t c' h => hs t c' (.previous ho h)) he n
  cases s with
  | back | backTo | properties | propertyNames | propertyNamesAs | isOneOf | filter | compare
  | count | limit | skip | unique | order | tagged =>
    exact succeeds_operation rfl hself he (of_previous rfl n)
  | entities ids =>
    rw [plan]
    obtain ⟨values, hvalues⟩ := EntityId.exists_values_eq_ok.2 hfilled
    exact (succeeds_check hvalues).bind fun _ _ _ => succeeds_planned _ _
  | vertex values => rw [plan]; exact succeeds_planned _ _
  | placeholder => rw [plan]; exact succeeds_pure _
  | visit tr o property =>
    rw [plan]
    refine (of_previous rfl n).bind fun _ k _ => ?_
    refine (succeeds_plan (fun t c' h => hs t c' (.visited h)) he k).bind fun _ _ _ => ?_
    exact succeeds_planned _ _
  | has d o property values =>
    rw [plan]
    refine (succeeds_require (by simpa [IsFilledIn] using hfilled)).bind fun _ k _ => ?_
    refine (of_previous rfl k).bind fun _ l _ => ?_
    refine (succeeds_plan (fun t c' h => hs t c' (.had h)) he l).bind fun _ _ _ => ?_
    exact succeeds_planned _ _
  | combine operation o ss =>
    rw [plan]
    refine (of_previous rfl n).bind fun _ k _ => ?_
    refine (succeeds_require (by simpa [IsFilledIn] using hfilled)).bind fun _ l _ => ?_
    refine (succeeds_planEach (fun b hb n => ?_) l).bind fun _ _ _ => succeeds_planned _ _
    have := List.sizeOf_lt_of_mem hb
    exact succeeds_plan (fun t c' h => hs t c' (.combined hb h)) he n
  | whereAll o ss =>
    refine succeeds_whereAll hfilled he (of_previous rfl) (fun b hb f hf n => ?_) n
    have := List.sizeOf_lt_of_mem hb
    exact succeeds_plan (fun t c' h => hs t c' (.condition hb h)) hf n
  | optional o b =>
    exact succeeds_optional he (of_previous rfl n) fun f hf n =>
      succeeds_plan (fun t c' h => hs t c' (.option h)) hf n
  | follow o f =>
    rw [plan]
    refine (of_previous rfl n).bind fun po k ho => ?_
    have horigin := plans_of_plan ho
    have hfragment : Knows (po.bindings.withPlaceholder po.ref) ⟨o.scope c.tags, o.hop c.trail⟩ :=
      ⟨contains_of_plans horigin he.tags, by
        rw [← he.trail]; exact hopState_of_plans horigin⟩
    refine (succeeds_plan (fun t c' h => hs t c' (.fragment h)) hfragment k).bind fun _ _ _ => ?_
    exact succeeds_pure _
  | select | selectFirst | documents => exact absurd hself.isReport (by simp [Step.isReport])
termination_by sizeOf s

/-- **Planning makes no other checks.** Under bindings of which something is known, a step is
planned exactly if each step that stands in it is allowed there. -/
theorem succeeds_plan_iff (he : Knows e c) :
    Succeeds (s.plan sizeLimit e) n ↔ ∀ t c', Stands s c t c' → t.Allowed sizeLimit c' := by
  refine ⟨?_, fun hs => succeeds_plan hs he n⟩
  rintro ⟨p, m, hp⟩ t c' ht
  obtain ⟨e', n', p', m', hplans, hknows⟩ := exists_plans_of_stands ht (plans_of_plan hp) he
  exact allowed_of_plans hplans hknows

/-! ### Queries -/

/-- Each part of a step stands in it somewhere. -/
theorem exists_stands_of_mem_parts {s : Step} (ht : t ∈ s.parts) (c : Around) :
    ∃ c', Stands s c t c' := by
  have of_previous {o : Step} (ho : s.previous? = some o) (ht : t ∈ o.parts) :
      ∃ c', Stands s c t c' := by
    have := sizeOf_lt_of_previous ho
    obtain ⟨c', h⟩ := exists_stands_of_mem_parts ht c
    exact ⟨c', .previous ho h⟩
  have of_inner {o : Step} {inner : List Step} (ho : s.previous? = some o)
      (ht : t ∈ s :: (o.parts ++ inner)) (hinner : t ∈ inner → ∃ c', Stands s c t c') :
      ∃ c', Stands s c t c' := by
    rcases List.mem_cons.1 ht with rfl | ht
    · exact ⟨c, .here⟩
    · exact (List.mem_append.1 ht).elim (of_previous ho) hinner
  cases s with
  | entities | vertex | placeholder =>
    obtain rfl := List.mem_singleton.1 ht
    exact ⟨c, .here⟩
  | visit tr o property =>
    refine of_inner rfl ht fun ht => ?_
    obtain ⟨c', h⟩ := exists_stands_of_mem_parts ht c
    exact ⟨c', .visited h⟩
  | has d o property values =>
    refine of_inner rfl ht fun ht => ?_
    obtain ⟨c', h⟩ := exists_stands_of_mem_parts ht c
    exact ⟨c', .had h⟩
  | combine operation o ss =>
    refine of_inner rfl ht fun ht => ?_
    obtain ⟨b, hb, ht⟩ := mem_partsEach_iff.1 ht
    have := List.sizeOf_lt_of_mem hb
    obtain ⟨c', h⟩ := exists_stands_of_mem_parts ht c
    exact ⟨c', .combined hb h⟩
  | whereAll o ss =>
    refine of_inner rfl ht fun ht => ?_
    obtain ⟨b, hb, ht⟩ := mem_partsEach_iff.1 ht
    have := List.sizeOf_lt_of_mem hb
    obtain ⟨c', h⟩ := exists_stands_of_mem_parts ht ⟨o.scope c.tags, .unknown⟩
    exact ⟨c', .condition hb h⟩
  | optional o b =>
    refine of_inner rfl ht fun ht => ?_
    obtain ⟨c', h⟩ := exists_stands_of_mem_parts ht ⟨o.scope c.tags, .unknown⟩
    exact ⟨c', .option h⟩
  | follow o f =>
    refine of_inner rfl ht fun ht => ?_
    obtain ⟨c', h⟩ := exists_stands_of_mem_parts ht ⟨o.scope c.tags, o.hop c.trail⟩
    exact ⟨c', .fragment h⟩
  | _ =>
    rcases List.mem_cons.1 ht with rfl | ht
    · exact ⟨c, .here⟩
    · exact of_previous rfl ht
termination_by sizeOf s

/-- What stands in a step is a part of it. -/
theorem mem_parts_of_stands (h : Stands s c t c') : t ∈ s.parts := by
  induction h with
  | here => exact mem_parts_self _
  | previous ho _ ih => exact mem_parts_of_previous ho ih
  | visited _ ih => exact mem_parts_of_visited ih
  | had _ ih => exact mem_parts_of_had ih
  | combined hb _ ih => exact mem_parts_of_combined hb ih
  | condition hb _ ih => exact mem_parts_of_branch hb ih
  | option _ ih => exact mem_parts_of_option ih
  | fragment _ ih => exact mem_parts_of_fragment ih

/-- What is known around a query: no tags are in scope, and its placeholder stands for all nodes,
which nothing leads to. -/
def Around.root : Around := ⟨[], .absent⟩

/-- What it takes for a query to be accepted. -/
structure WellFormed (sizeLimit : Nat) (s : Step) : Prop where
  /-- Result shapes stand at the root only. -/
  shapes : ∀ t ∈ s.shape.1.parts, t.isReport = false
  /-- At any depth, nothing is missing. -/
  filledIn : ∀ t ∈ s.parts, t.IsFilledIn sizeLimit
  /-- Tags that are gone back to are in scope there. -/
  resolves : ∀ o tag c, Stands s.shape.1 .root (.backTo o tag) c → tag ∈ o.scope c.tags
  /-- Tags that are asked for are in scope at the root. -/
  reports : ∀ o wanted, s = .select o (some wanted) → ∀ tag ∈ wanted, tag ∈ o.scope []
  /-- Nothing is undone where it is known that there is nothing to undo. -/
  undoes : ∀ o c, Stands s.shape.1 .root (.back o) c → o.hop c.trail ≠ .absent

/-- The parts of a query are those of the step whose rows it reports, and what asks for a shape. -/
theorem mem_parts_shape (ht : t ∈ s.parts) : t ∈ s.shape.1.parts ∨ t.isReport = true := by
  cases s with
  | select | selectFirst | documents =>
    rcases List.mem_cons.1 ht with rfl | ht
    · exact .inr rfl
    · exact .inl ht
  | _ => exact .inl ht

theorem IsFilledIn.of_isReport (h : t.isReport = true) : t.IsFilledIn sizeLimit := by
  cases t <;> simp_all [isReport, IsFilledIn]

/-- Tags that are asked for are bound exactly if they are in scope. -/
theorem checkTags_eq_ok_iff (he : Binds e (s.shape.1.scope [])) :
    checkTags e s.shape.2 = .ok () ↔
      ∀ o wanted, s = .select o (some wanted) → ∀ tag ∈ wanted, tag ∈ o.scope [] := by
  cases s with
  | select o tags =>
    cases tags with
    | none => exact iff_of_true rfl nofun
    | some wanted =>
      have hbound : checkTags e (.tags (some wanted)) = .ok () ↔
          ∀ tag ∈ wanted, e.contains tag = true := by
        rw [checkTags]
        cases hmissing : wanted.find? fun tag => !e.contains tag with
        | none => simpa using List.find?_eq_none.1 hmissing
        | some tag =>
          have hin := List.mem_of_find?_eq_some hmissing
          have hunbound := List.find?_some hmissing
          refine iff_of_false nofun fun hall => ?_
          simp [hall tag hin] at hunbound
      refine hbound.trans ⟨?_, fun h tag htag => (he tag).2 (h o wanted rfl tag htag)⟩
      rintro h _ _ ⟨⟩ tag htag
      exact (he tag).1 (h tag htag)
  | _ => exact iff_of_true rfl nofun

theorem knows_root : Knows .root .root where
  tags := fun t => by simp [Bindings.contains, Bindings.find?, Bindings.root, Around.root]
  trail := rfl

/-- **Exactly the well-formed queries are accepted.** -/
theorem prepare_isOk_iff_wellFormed (s : Step) (settings : Settings) :
    (∃ q, s.prepare settings = .ok q) ↔ s.WellFormed settings.patternSizeLimit := by
  constructor
  · rintro ⟨q, hq⟩
    obtain ⟨p, m, hp, htags, -⟩ := prepare_eq_ok_iff.1 hq
    have hallowed := (succeeds_plan_iff knows_root).1 ⟨p, m, hp⟩
    have hbinds := contains_of_plans (plans_of_plan hp) knows_root.tags
    have hpart {t : Step} (ht : t ∈ s.shape.1.parts) :
        ∃ c, t.Allowed settings.patternSizeLimit c := by
      obtain ⟨c, hc⟩ := exists_stands_of_mem_parts ht .root
      exact ⟨c, hallowed t c hc⟩
    exact {
      shapes := fun t ht => (hpart ht).elim fun _ h => h.isReport
      filledIn := fun t ht => (mem_parts_shape ht).elim
        (fun ht => (hpart ht).elim fun _ h => h.isFilledIn) .of_isReport
      resolves := fun o tag c hc => (hallowed _ c hc).resolves o tag rfl
      reports := (checkTags_eq_ok_iff hbinds).1 htags
      undoes := fun o c hc => (hallowed _ c hc).undoes o rfl }
  · intro h
    have hallowed (t : Step) (c : Around) (hc : Stands s.shape.1 .root t c) :
        t.Allowed settings.patternSizeLimit c := by
      have ht := mem_parts_of_stands hc
      refine ⟨h.shapes t ht, h.filledIn t (mem_parts_of_shape ht), ?_, ?_⟩
      · rintro o rfl
        exact h.undoes o c hc
      · rintro o tag rfl
        exact h.resolves o tag c hc
    obtain ⟨p, m, hp⟩ := succeeds_plan hallowed knows_root {}
    have hbinds := contains_of_plans (plans_of_plan hp) knows_root.tags
    exact ⟨_, prepare_eq_ok_iff.2 ⟨p, m, hp, (checkTags_eq_ok_iff hbinds).2 h.reports, rfl⟩⟩

end Step

end QuadWalk
