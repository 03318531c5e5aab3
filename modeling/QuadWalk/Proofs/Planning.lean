import QuadWalk.Proofs.Computations
import QuadWalk.Query.Prepared

/-!
# Derivations of plans

`Step.Plans` says rule by rule which plan and which bindings a step gets, and which numbers that
uses up. Planning follows these rules (`Step.plans_of_plan`), so what holds of every planned step is
proved by induction on a derivation, without looking into `Planner` again. What is derived is also
planned (`Step.plan_of_plans`).

The operations that put one operator on their origin and keep its bindings have one rule,
`Step.Plans.apply`; which operator it is says `Step.Applies`. A few more steps have nothing but
their origin inside them, and all of these are planned in the same way (`Step.plan_of_operation`).
What they make of their planned origin is one of seven things (`Step.Makes`).
-/

namespace QuadWalk

/-! ### Numbers -/

namespace Supply

/-- A plan with the next identity. -/
def ref (n : Supply) (p : Plan) : PlanRef := ⟨n.nextPlan, p⟩

/-- The supply after a plan got its identity. -/
def afterPlan (n : Supply) : Supply := { n with nextPlan := n.nextPlan + 1 }

/-- The supply after an anchor was given out. -/
def afterAnchor (n : Supply) : Supply := { n with nextAnchor := n.nextAnchor + 1 }

@[simp]
theorem plan_ref (n : Supply) (p : Plan) : (n.ref p).plan = p := rfl

end Supply

/-! ### Planners that succeed -/

namespace Planner

variable {α β : Type} {n m k : Supply}

theorem pure_eq_ok {a b : α} : (pure a : Planner α) n = .ok (b, m) ↔ a = b ∧ n = m := by
  show Except.ok (a, n) = Except.ok (b, m) ↔ _
  simp

theorem bind_eq_ok {x : Planner α} {f : α → Planner β} {b : β} :
    (x >>= f) n = .ok (b, m) ↔ ∃ a k, x n = .ok (a, k) ∧ f a k = .ok (b, m) := by
  show StateT.bind x f n = _ ↔ _
  unfold StateT.bind
  cases x n with
  | error e => simp [bind, Except.bind]
  | ok r =>
    obtain ⟨a, k⟩ := r
    constructor
    · intro h
      exact ⟨a, k, rfl, h⟩
    · rintro ⟨a', k', h, h'⟩
      cases h
      exact h'

theorem bind_ok {x : Planner α} {f : α → Planner β} {a : α} {b : β} (hx : x n = .ok (a, k))
    (hf : f a k = .ok (b, m)) : (x >>= f) n = .ok (b, m) :=
  bind_eq_ok.2 ⟨a, k, hx, hf⟩

theorem check_eq_ok {found : Except QueryError α} {a : α} :
    check found n = .ok (a, m) ↔ found = .ok a ∧ n = m := by
  unfold check
  cases found <;> simp [Except.map]

theorem check_ok {found : Except QueryError α} {a : α} (h : found = .ok a) :
    check found n = .ok (a, n) :=
  check_eq_ok.2 ⟨h, rfl⟩

/-- A check of something that is made of what was found is a check of what was found. -/
theorem check_map_bind (found : Except QueryError α) (f : α → β) {γ : Type} (x : β → Planner γ) :
    check (found.map f) >>= x = check found >>= fun a => x (f a) := by
  cases found <;> rfl

theorem require_eq_ok {condition : Bool} {fault : StepFault} {u : Unit} :
    require condition fault n = .ok (u, m) ↔ condition = true ∧ n = m := by
  unfold require refuse
  cases condition
  · simp [check_eq_ok]
  · simp [pure_eq_ok]

theorem require_ok {condition : Bool} {fault : StepFault} (h : condition = true) :
    require condition fault n = .ok ((), n) :=
  require_eq_ok.2 ⟨h, rfl⟩

theorem identify_eq_ok {p : Plan} {r : PlanRef} :
    identify p n = .ok (r, m) ↔ r = n.ref p ∧ m = n.afterPlan := by
  simp [identify, Supply.ref, Supply.afterPlan, eq_comm]

theorem newAnchor_eq_ok {id : AnchorId} :
    newAnchor n = .ok (id, m) ↔ id = n.nextAnchor ∧ m = n.afterAnchor := by
  simp [newAnchor, Supply.afterAnchor, eq_comm]

theorem planned_eq_ok {p : Plan} {e : Bindings} {r : Planned} :
    planned p e n = .ok (r, m) ↔ r = ⟨n.ref p, e⟩ ∧ m = n.afterPlan := by
  simp only [planned, bind_eq_ok, identify_eq_ok, pure_eq_ok]
  constructor
  · rintro ⟨_, _, ⟨rfl, rfl⟩, rfl, rfl⟩
    exact ⟨rfl, rfl⟩
  · rintro ⟨rfl, rfl⟩
    exact ⟨_, _, ⟨rfl, rfl⟩, rfl, rfl⟩

theorem planned_ok {p : Plan} {e : Bindings} : planned p e n = .ok (⟨n.ref p, e⟩, n.afterPlan) :=
  planned_eq_ok.2 ⟨rfl, rfl⟩

theorem binding_eq_ok {tag : String} {p : Plan} {e : Bindings} {r : Planned} :
    binding tag p e n = .ok (r, m) ↔ r = ⟨n.ref p, e.bind tag (n.ref p)⟩ ∧ m = n.afterPlan := by
  simp only [binding, bind_eq_ok, identify_eq_ok, pure_eq_ok]
  constructor
  · rintro ⟨_, _, ⟨rfl, rfl⟩, rfl, rfl⟩
    exact ⟨rfl, rfl⟩
  · rintro ⟨rfl, rfl⟩
    exact ⟨_, _, ⟨rfl, rfl⟩, rfl, rfl⟩

/-! ### What is made of a planned origin -/

/-- Puts an operator on a planned origin, and keeps its bindings. -/
def put (operator : Plan → Plan) (o : Planned) : Planner Planned :=
  planned (operator o.ref.plan) o.bindings

theorem put_eq_ok {operator : Plan → Plan} {o p : Planned} :
    put operator o n = .ok (p, m) ↔
      p = ⟨n.ref (operator o.ref.plan), o.bindings⟩ ∧ m = n.afterPlan :=
  planned_eq_ok

/-- Puts an operator on a planned origin, and binds a tag to it. -/
def putBinding (tag : String) (operator : Plan → Plan) (o : Planned) : Planner Planned :=
  binding tag (operator o.ref.plan) o.bindings

/-- Undoes the last traversal of a planned origin, unless there is none. -/
def putBack (o : Planned) : Planner Planned := do
  require (o.ref.plan.hopState ≠ .absent) .noTraversal
  put .back o

/-- Goes back to a tag that a planned origin binds. -/
def putBackTo (tag : String) (o : Planned) : Planner Planned :=
  if o.bindings.contains tag then put (.backTo · tag) o
  else check (.error (.unresolvedTag tag))

/-- Counts the rows of a planned origin, after which no tag is bound. -/
def putCount (o : Planned) : Planner Planned :=
  planned (.count o.ref.plan) { placeholder := o.bindings.placeholder }

/-- The result of a step if it has no fault. -/
def provided (condition : Bool) (fault : StepFault) (a : α) : Except QueryError α :=
  if condition then .ok a else .error (.malformedStep fault)

theorem provided_eq_ok {condition : Bool} {fault : StepFault} {a b : α} :
    provided condition fault a = .ok b ↔ condition = true ∧ a = b := by
  unfold provided
  cases condition <;> simp

theorem check_provided_bind (condition : Bool) (fault : StepFault) (a : α) (x : α → Planner β) :
    check (provided condition fault a) >>= x = require condition fault >>= fun _ => x a := by
  cases condition <;> rfl

/-- What holds of a planned step, and still holds when a property is bound after it, holds when
several are. -/
theorem saveEach_induction {P : Planned → Supply → Prop} {d : Direction} {names : List String}
    {o p : Planned} (h : saveEach d names o n = .ok (p, m)) (ho : P o n)
    (hsave : ∀ (o : Planned) (k : Supply) (name : String), P o k →
      let saved := k.ref (.save d o.ref.plan (.iri name) name)
      P ⟨saved, o.bindings.bind name saved⟩ k.afterPlan) : P p m := by
  induction names generalizing o n with
  | nil =>
    simp only [saveEach, pure_eq_ok] at h
    obtain ⟨rfl, rfl⟩ := h
    exact ho
  | cons name names ih =>
    simp only [saveEach, bind_eq_ok, binding_eq_ok] at h
    obtain ⟨_, _, ⟨rfl, rfl⟩, h⟩ := h
    exact ih h (hsave o n name ho)

end Planner

/-! ### The rules -/

/-- One of the steps inside another: the numbers from which it was planned, and those left. -/
structure Branch where
  step : Step
  start : Supply
  planned : Planned
  stop : Supply

namespace Branch

/-- The plan of a branch. -/
def plan (b : Branch) : Plan := b.planned.ref.plan

/-- Each branch goes on with the numbers that the one before it left. -/
def Linked : Supply → List Branch → Supply → Prop
  | n, [], m => n = m
  | n, b :: bs, m => b.start = n ∧ Linked b.stop bs m

end Branch

namespace Step

/-- The step puts one operator on the plan of its origin, given how that was planned. -/
inductive Applies (sizeLimit : Nat) (o : Step) (po : Planned) : Step → Plan → Prop
  | back (h : po.ref.plan.hopState ≠ .absent) : Applies sizeLimit o po (.back o) (.back po.ref.plan)
  | backTo {tag : String} (h : po.bindings.contains tag = true) :
      Applies sizeLimit o po (.backTo o tag) (.backTo po.ref.plan tag)
  | propertyNames {d : Direction} :
      Applies sizeLimit o po (.propertyNames d o) (.unique (.predicates d po.ref.plan))
  | isOneOf {values : List Value} (h : values ≠ []) :
      Applies sizeLimit o po (.isOneOf o values) (.isOneOf po.ref.plan values)
  | filter {condition : TextFilter} {matcher : TextMatcher}
      (h : TextMatcher.compile condition sizeLimit = .ok matcher) :
      Applies sizeLimit o po (.filter o condition) (.filter po.ref.plan matcher)
  | compare {c : Comparison} {operand : Value} (h : c.checkOperand operand = .ok ()) :
      Applies sizeLimit o po (.compare c o operand) (.compare c po.ref.plan operand)
  | limit {count : Nat} : Applies sizeLimit o po (.limit o count) (.limit po.ref.plan count)
  | skip {count : Nat} : Applies sizeLimit o po (.skip o count) (.skip po.ref.plan count)
  | unique : Applies sizeLimit o po (.unique o) (.unique po.ref.plan)
  | order : Applies sizeLimit o po (.order o) (.order po.ref.plan)

/-- How a step is planned under bindings: from which numbers, to what, and what numbers are left. -/
inductive Plans (sizeLimit : Nat) : Step → Bindings → Supply → Planned → Supply → Prop
  | entities {ids : List EntityId} {values : List Value} {e : Bindings} {n : Supply}
      (h : ids.mapM EntityId.value = .ok values) :
      Plans sizeLimit (.entities ids) e n ⟨n.ref (.fixed values), e⟩ n.afterPlan
  | vertex {values : List Value} {e : Bindings} {n : Supply} :
      Plans sizeLimit (.vertex values) e n
        ⟨n.ref (if values.isEmpty then .allNodes else .fixed values), e⟩ n.afterPlan
  | placeholder {e : Bindings} {n : Supply} :
      Plans sizeLimit .placeholder e n ⟨e.placeholder, e⟩ n
  | apply {s o : Step} {e : Bindings} {n k : Supply} {po : Planned} {p : Plan}
      (origin : Plans sizeLimit o e n po k) (h : Applies sizeLimit o po s p) :
      Plans sizeLimit s e n ⟨k.ref p, po.bindings⟩ k.afterPlan
  | visit {t : Traversal} {o property : Step} {e : Bindings} {n k m : Supply} {po via : Planned}
      (origin : Plans sizeLimit o e n po k) (side : Plans sizeLimit property e k via m) :
      Plans sizeLimit (.visit t o property) e n
        ⟨m.ref (.hop t po.ref.plan via.ref.plan), po.bindings⟩ m.afterPlan
  | has {d : Direction} {o property : Step} {values : List Value} {e : Bindings} {n k m : Supply}
      {po via : Planned} (h : values ≠ []) (origin : Plans sizeLimit o e n po k)
      (side : Plans sizeLimit property e k via m) :
      Plans sizeLimit (.has d o property values) e n
        ⟨m.ref (.has d po.ref.plan via.ref.plan values), po.bindings⟩ m.afterPlan
  | combine {operation : SetOperation} {o : Step} {e : Bindings} {n k m : Supply} {po : Planned}
      {bs : List Branch} (h : bs ≠ []) (origin : Plans sizeLimit o e n po k)
      (linked : Branch.Linked k bs m)
      (branches : ∀ b ∈ bs, Plans sizeLimit b.step e b.start b.planned b.stop) :
      Plans sizeLimit (.combine operation o (bs.map Branch.step)) e n
        ⟨m.ref (operation.plan po.ref.plan (bs.map Branch.plan)), po.bindings⟩ m.afterPlan
  | properties {d : Direction} {o : Step} {names : List String} {e : Bindings} {n k m : Supply}
      {po p : Planned} (h : names ≠ []) (origin : Plans sizeLimit o e n po k)
      (saved : Planner.saveEach d names po k = .ok (p, m)) :
      Plans sizeLimit (.properties d o names) e n p m
  | propertyNamesAs {d : Direction} {o : Step} {tag : String} {e : Bindings} {n k : Supply}
      {po : Planned} (origin : Plans sizeLimit o e n po k) :
      Plans sizeLimit (.propertyNamesAs d o tag) e n
        ⟨k.ref (.savePredicates d po.ref.plan tag),
          po.bindings.bind tag (k.ref (.savePredicates d po.ref.plan tag))⟩ k.afterPlan
  | tagged {o : Step} {name : String} {e : Bindings} {n k : Supply} {po : Planned} (h : name ≠ "")
      (origin : Plans sizeLimit o e n po k) :
      Plans sizeLimit (.tagged o name) e n
        ⟨k.ref (.tag po.ref.plan name), po.bindings.bind name (k.ref (.tag po.ref.plan name))⟩
        k.afterPlan
  | count {o : Step} {e : Bindings} {n k : Supply} {po : Planned}
      (origin : Plans sizeLimit o e n po k) :
      Plans sizeLimit (.count o) e n
        ⟨k.ref (.count po.ref.plan), { placeholder := po.bindings.placeholder }⟩ k.afterPlan
  | whereAll {o : Step} {e : Bindings} {n k m : Supply} {po : Planned} {bs : List Branch}
      (h : bs ≠ []) (origin : Plans sizeLimit o e n po k)
      (linked : Branch.Linked k.afterAnchor.afterPlan bs m)
      (branches : ∀ b ∈ bs, Plans sizeLimit b.step
        (po.bindings.withPlaceholder (k.afterAnchor.ref (.anchor k.nextAnchor)))
        b.start b.planned b.stop) :
      Plans sizeLimit (.whereAll o (bs.map Branch.step)) e n
        ⟨m.ref (.whereAll po.ref.plan k.nextAnchor (bs.map Branch.plan)),
          bs.foldl (fun merged b => merged.mergeExports b.planned.bindings) po.bindings⟩ m.afterPlan
  | optional {o s : Step} {e : Bindings} {n k m : Supply} {po b : Planned}
      (origin : Plans sizeLimit o e n po k)
      (branch : Plans sizeLimit s
        (po.bindings.withPlaceholder (k.afterAnchor.ref (.anchor k.nextAnchor)))
        k.afterAnchor.afterPlan b m) :
      Plans sizeLimit (.optional o s) e n
        ⟨m.ref (.optional po.ref.plan k.nextAnchor b.ref.plan),
          po.bindings.mergeExports b.bindings⟩ m.afterPlan
  | follow {o s : Step} {e : Bindings} {n k m : Supply} {po f : Planned}
      (origin : Plans sizeLimit o e n po k)
      (fragment : Plans sizeLimit s (po.bindings.withPlaceholder po.ref) k f m) :
      Plans sizeLimit (.follow o s) e n
        ⟨f.ref, f.bindings.withPlaceholder po.bindings.placeholder⟩ m

open Planner

/-! ### Operations

Most steps have nothing but their origin inside them. They are all planned in the same way: first
what can be checked without the origin, then the origin, then what is made of it. -/

/-- How a step is planned that has nothing but its origin inside it. -/
structure Operation where
  origin : Step
  /-- What the checks that come first allow to be made of the planned origin. -/
  finish : Except QueryError (Planned → Planner Planned)

/-- The operation that a step is, if there is nothing but its origin inside it. -/
def operation? (sizeLimit : Nat) : Step → Option Operation
  | back o => some ⟨o, .ok putBack⟩
  | backTo o tag => some ⟨o, .ok (putBackTo tag)⟩
  | properties d o names => some ⟨o, provided (!names.isEmpty) .noNames (saveEach d names)⟩
  | propertyNames d o => some ⟨o, .ok (put fun p => .unique (.predicates d p))⟩
  | propertyNamesAs d o tag => some ⟨o, .ok (putBinding tag (.savePredicates d · tag))⟩
  | isOneOf o values =>
    some ⟨o, provided (!values.isEmpty) (.noValues "Is") (put (.isOneOf · values))⟩
  | filter o condition => some ⟨o,
      (TextMatcher.compile condition sizeLimit).map fun matcher => put (.filter · matcher)⟩
  | compare c o operand => some ⟨o,
      ((c.checkOperand operand).mapError .typeMismatch).map fun _ => put (.compare c · operand)⟩
  | count o => some ⟨o, .ok putCount⟩
  | limit o n => some ⟨o, .ok (put (.limit · n))⟩
  | skip o n => some ⟨o, .ok (put (.skip · n))⟩
  | unique o => some ⟨o, .ok (put .unique)⟩
  | order o => some ⟨o, .ok (put .order)⟩
  | tagged o name =>
    some ⟨o, provided (name ≠ "") .noTagName (putBinding name (.tag · name))⟩
  | _ => none

variable {sizeLimit : Nat} {s o : Step} {e : Bindings} {n k m : Supply} {po p : Planned}
  {finish : Except QueryError (Planned → Planner Planned)} {make : Planned → Planner Planned}

/-- An operation is planned by its checks, its origin, and what is made of that. -/
theorem plan_of_operation (h : s.operation? sizeLimit = some ⟨o, finish⟩) (e : Bindings) :
    s.plan sizeLimit e = check finish >>= fun make => o.plan sizeLimit e >>= make := by
  cases s with
  | back | backTo | propertyNames | propertyNamesAs | count | limit | skip | unique | order =>
    cases h
    rw [plan]
    rfl
  | properties | isOneOf | tagged =>
    cases h
    rw [plan]
    exact (check_provided_bind _ _ _ _).symm
  | filter | compare =>
    cases h
    rw [plan]
    exact (check_map_bind _ _ _).symm
  | _ => cases h

/-- What an operation makes of its planned origin, once its checks have passed. -/
inductive Makes (sizeLimit : Nat) (o : Step) : Step → (Planned → Planner Planned) → Prop
  | put {s : Step} {operator : Plan → Plan}
      (h : ∀ po : Planned, Applies sizeLimit o po s (operator po.ref.plan)) :
      Makes sizeLimit o s (put operator)
  | back : Makes sizeLimit o (.back o) putBack
  | backTo {tag : String} : Makes sizeLimit o (.backTo o tag) (putBackTo tag)
  | properties {d : Direction} {names : List String} (h : names ≠ []) :
      Makes sizeLimit o (.properties d o names) (saveEach d names)
  | propertyNamesAs {d : Direction} {tag : String} :
      Makes sizeLimit o (.propertyNamesAs d o tag) (putBinding tag (.savePredicates d · tag))
  | tagged {name : String} (h : name ≠ "") :
      Makes sizeLimit o (.tagged o name) (putBinding name (.tag · name))
  | count : Makes sizeLimit o (.count o) putCount

/-- What passes the checks of an operation is one of these. -/
theorem makes_of_operation (h : s.operation? sizeLimit = some ⟨o, .ok make⟩) :
    Makes sizeLimit o s make := by
  cases s with
  | back => cases h; exact .back
  | backTo => cases h; exact .backTo
  | propertyNamesAs => cases h; exact .propertyNamesAs
  | count => cases h; exact .count
  | propertyNames | limit | skip | unique | order =>
    cases h
    exact .put fun _ => by constructor
  | properties =>
    simp only [operation?, Option.some.injEq, Operation.mk.injEq, provided_eq_ok] at h
    obtain ⟨rfl, hnames, rfl⟩ := h
    exact .properties (by simpa using hnames)
  | isOneOf =>
    simp only [operation?, Option.some.injEq, Operation.mk.injEq, provided_eq_ok] at h
    obtain ⟨rfl, hvalues, rfl⟩ := h
    exact .put fun _ => .isOneOf (by simpa using hvalues)
  | tagged =>
    simp only [operation?, Option.some.injEq, Operation.mk.injEq, provided_eq_ok] at h
    obtain ⟨rfl, hname, rfl⟩ := h
    exact .tagged (by simpa using hname)
  | filter =>
    simp only [operation?, Option.some.injEq, Operation.mk.injEq, map_ok_iff] at h
    obtain ⟨rfl, matcher, hmatcher, rfl⟩ := h
    exact .put fun _ => .filter hmatcher
  | compare =>
    simp only [operation?, Option.some.injEq, Operation.mk.injEq, map_ok_iff] at h
    obtain ⟨rfl, _, hoperand, rfl⟩ := h
    exact .put fun _ => .compare (mapError_ok_iff.1 hoperand)
  | _ => cases h

/-- What is made of a planned origin is by the rule for the operation. -/
theorem plans_of_makes (h : Makes sizeLimit o s make) (origin : Plans sizeLimit o e n po k)
    (hp : make po k = .ok (p, m)) : Plans sizeLimit s e n p m := by
  cases h with
  | put happlies =>
    obtain ⟨rfl, rfl⟩ := put_eq_ok.1 hp
    exact .apply origin (happlies po)
  | back =>
    simp only [putBack, bind_eq_ok, require_eq_ok, decide_eq_true_eq] at hp
    obtain ⟨_, _, ⟨hstate, rfl⟩, hp⟩ := hp
    obtain ⟨rfl, rfl⟩ := put_eq_ok.1 hp
    exact .apply origin (.back hstate)
  | backTo =>
    rw [putBackTo] at hp
    split at hp
    · rename_i hbound
      obtain ⟨rfl, rfl⟩ := put_eq_ok.1 hp
      exact .apply origin (.backTo hbound)
    · simp [check_eq_ok] at hp
  | properties hnames => exact .properties hnames origin hp
  | propertyNamesAs =>
    obtain ⟨rfl, rfl⟩ := binding_eq_ok.1 hp
    exact .propertyNamesAs origin
  | tagged hname =>
    obtain ⟨rfl, rfl⟩ := binding_eq_ok.1 hp
    exact .tagged hname origin
  | count =>
    obtain ⟨rfl, rfl⟩ := planned_eq_ok.1 hp
    exact .count origin

/-- **An operation is planned by its rule**, if its origin is planned by the rules. -/
theorem plans_of_operation (h : s.operation? sizeLimit = some ⟨o, finish⟩)
    (ho : ∀ {k po}, o.plan sizeLimit e n = .ok (po, k) → Plans sizeLimit o e n po k)
    (hp : s.plan sizeLimit e n = .ok (p, m)) : Plans sizeLimit s e n p m := by
  rw [plan_of_operation h] at hp
  obtain ⟨make, _, hmake, hp⟩ := bind_eq_ok.1 hp
  obtain ⟨rfl, rfl⟩ := check_eq_ok.1 hmake
  obtain ⟨po, k, horigin, hp⟩ := bind_eq_ok.1 hp
  exact plans_of_makes (makes_of_operation h) (ho horigin) hp

/-! ### Planning follows the rules -/

/-- Steps that are planned one after another are branches that are linked. -/
theorem branches_of_planEach {ss : List Step} {ps : List Planned}
    (h : planEach sizeLimit ss e n = .ok (ps, m))
    (hss : ∀ s ∈ ss, ∀ n m p, s.plan sizeLimit e n = .ok (p, m) → Plans sizeLimit s e n p m) :
    ∃ bs : List Branch, ss = bs.map Branch.step ∧ ps = bs.map Branch.planned ∧
      Branch.Linked n bs m ∧ ∀ b ∈ bs, Plans sizeLimit b.step e b.start b.planned b.stop := by
  induction ss generalizing n ps with
  | nil =>
    simp only [planEach, pure_eq_ok] at h
    obtain ⟨rfl, rfl⟩ := h
    exact ⟨[], rfl, rfl, rfl, by simp⟩
  | cons s ss ih =>
    simp only [planEach, bind_eq_ok, pure_eq_ok] at h
    obtain ⟨p, k, hp, ps, l, hps, rfl, rfl⟩ := h
    obtain ⟨bs, rfl, rfl, linked, branches⟩ := ih hps fun s hs => hss s (List.mem_cons_of_mem _ hs)
    refine ⟨⟨s, n, p, k⟩ :: bs, rfl, rfl, ⟨rfl, linked⟩, ?_⟩
    exact List.forall_mem_cons.2 ⟨hss s List.mem_cons_self _ _ _ hp, branches⟩

/-- **Planning succeeds only by the rules.** -/
theorem plans_of_plan {s : Step} {e : Bindings} {n m : Supply} {p : Planned}
    (h : s.plan sizeLimit e n = .ok (p, m)) : Plans sizeLimit s e n p m := by
  cases s with
  | back | backTo | properties | propertyNames | propertyNamesAs | isOneOf | filter | compare
  | count | limit | skip | unique | order | tagged =>
    exact plans_of_operation rfl plans_of_plan h
  | entities ids =>
    simp only [plan, bind_eq_ok, check_eq_ok, planned_eq_ok] at h
    obtain ⟨values, _, ⟨hv, rfl⟩, rfl, rfl⟩ := h
    exact .entities hv
  | vertex values =>
    simp only [plan, planned_eq_ok] at h
    obtain ⟨rfl, rfl⟩ := h
    exact .vertex
  | placeholder =>
    simp only [plan, pure_eq_ok] at h
    obtain ⟨rfl, rfl⟩ := h
    exact .placeholder
  | visit t origin property =>
    simp only [plan, bind_eq_ok, planned_eq_ok] at h
    obtain ⟨o, k, ho, via, l, hv, rfl, rfl⟩ := h
    exact .visit (plans_of_plan ho) (plans_of_plan hv)
  | has d origin property values =>
    simp only [plan, bind_eq_ok, require_eq_ok, planned_eq_ok] at h
    obtain ⟨_, _, ⟨hn, rfl⟩, o, k, ho, via, l, hv, rfl, rfl⟩ := h
    exact .has (by simpa using hn) (plans_of_plan ho) (plans_of_plan hv)
  | combine operation origin steps =>
    simp only [plan, bind_eq_ok, require_eq_ok, planned_eq_ok] at h
    obtain ⟨o, k, ho, _, _, ⟨hn, rfl⟩, ps, l, hs, rfl, rfl⟩ := h
    obtain ⟨bs, rfl, rfl, linked, branches⟩ := branches_of_planEach hs fun s hs n m p hp => by
      have := List.sizeOf_lt_of_mem hs
      exact plans_of_plan hp
    rw [List.map_map]
    exact .combine (by simpa using hn) (plans_of_plan ho) linked branches
  | whereAll origin steps =>
    simp only [plan, bind_eq_ok, require_eq_ok, newAnchor_eq_ok, identify_eq_ok,
      planned_eq_ok] at h
    obtain ⟨_, _, ⟨hn, rfl⟩, o, k, ho, _, _, ⟨rfl, rfl⟩, _, _, ⟨rfl, rfl⟩, ps, l, hs, rfl, rfl⟩ := h
    obtain ⟨bs, rfl, rfl, linked, branches⟩ := branches_of_planEach hs fun s hs n m p hp => by
      have := List.sizeOf_lt_of_mem hs
      exact plans_of_plan hp
    rw [List.map_map, List.foldl_map]
    exact .whereAll (by simpa using hn) (plans_of_plan ho) linked branches
  | optional origin step =>
    simp only [plan, bind_eq_ok, newAnchor_eq_ok, identify_eq_ok, planned_eq_ok] at h
    obtain ⟨o, k, ho, _, _, ⟨rfl, rfl⟩, _, _, ⟨rfl, rfl⟩, b, l, hb, rfl, rfl⟩ := h
    exact .optional (plans_of_plan ho) (plans_of_plan hb)
  | follow origin step =>
    simp only [plan, bind_eq_ok, pure_eq_ok] at h
    obtain ⟨o, k, ho, f, l, hf, rfl, rfl⟩ := h
    exact .follow (plans_of_plan ho) (plans_of_plan hf)
  | select | selectFirst | documents => simp [plan, refuse, check_eq_ok] at h
termination_by sizeOf s

/-! ### What follows the rules is planned -/

theorem plan_of_applies {q : Plan} (ho : o.plan sizeLimit e n = .ok (po, k))
    (h : Applies sizeLimit o po s q) :
    s.plan sizeLimit e n = .ok (⟨k.ref q, po.bindings⟩, k.afterPlan) := by
  cases h <;> rw [plan]
  case back h => exact bind_ok ho (bind_ok (require_ok (by simpa using h)) planned_ok)
  case backTo h => exact bind_ok ho (by simpa only [h, if_true] using planned_ok)
  case isOneOf h => exact bind_ok (require_ok (by simpa using h)) (bind_ok ho planned_ok)
  case filter h => exact bind_ok (check_ok h) (bind_ok ho planned_ok)
  case compare h => exact bind_ok (check_ok (by rw [h]; rfl)) (bind_ok ho planned_ok)
  all_goals exact bind_ok ho planned_ok

theorem map_plan_planned (bs : List Branch) :
    bs.map Branch.plan = (bs.map Branch.planned).map (·.ref.plan) := by
  rw [List.map_map]
  rfl

theorem planEach_of_branches {bs : List Branch} (linked : Branch.Linked n bs m)
    (h : ∀ b ∈ bs, b.step.plan sizeLimit e b.start = .ok (b.planned, b.stop)) :
    planEach sizeLimit (bs.map Branch.step) e n = .ok (bs.map Branch.planned, m) := by
  induction bs generalizing n with
  | nil =>
    obtain rfl : n = m := linked
    rfl
  | cons b bs ih =>
    obtain ⟨rfl, linked⟩ := linked
    obtain ⟨hb, hbs⟩ := List.forall_mem_cons.1 h
    rw [List.map_cons, planEach]
    exact bind_ok hb (bind_ok (ih linked hbs) rfl)

/-- **Planning succeeds by the rules.** -/
theorem plan_of_plans (h : Plans sizeLimit s e n p m) : s.plan sizeLimit e n = .ok (p, m) := by
  induction h with
  | entities h =>
    rw [plan]
    exact bind_ok (check_ok h) planned_ok
  | vertex =>
    rw [plan]
    exact planned_ok
  | placeholder => rfl
  | apply _ h iho => exact plan_of_applies iho h
  | visit _ _ iho ihs =>
    rw [plan]
    exact bind_ok iho (bind_ok ihs planned_ok)
  | has h _ _ iho ihs =>
    rw [plan]
    exact bind_ok (require_ok (by simpa using h)) (bind_ok iho (bind_ok ihs planned_ok))
  | combine h _ linked _ iho ihs =>
    rw [plan, map_plan_planned]
    exact bind_ok iho (bind_ok (require_ok (by simpa using h))
      (bind_ok (planEach_of_branches linked ihs) planned_ok))
  | properties h _ saved iho =>
    rw [plan]
    exact bind_ok (require_ok (by simpa using h)) (bind_ok iho saved)
  | propertyNamesAs _ iho =>
    rw [plan]
    exact bind_ok iho rfl
  | tagged h _ iho =>
    rw [plan]
    exact bind_ok (require_ok (by simpa using h)) (bind_ok iho rfl)
  | count _ iho =>
    rw [plan]
    exact bind_ok iho planned_ok
  | @whereAll _ _ _ _ _ po bs h _ linked _ iho ihs =>
    have hexported : bs.foldl (fun merged b => merged.mergeExports b.planned.bindings) po.bindings =
        (bs.map Branch.planned).foldl (fun merged b => merged.mergeExports b.bindings)
          po.bindings := by
      rw [List.foldl_map]
    rw [plan, map_plan_planned, hexported]
    exact bind_ok (require_ok (by simpa using h)) (bind_ok iho (bind_ok rfl (bind_ok rfl
      (bind_ok (planEach_of_branches linked ihs) planned_ok))))
  | optional _ _ iho ihb =>
    rw [plan]
    exact bind_ok iho (bind_ok rfl (bind_ok rfl (bind_ok ihb planned_ok)))
  | follow _ _ iho ihf =>
    rw [plan]
    exact bind_ok iho (bind_ok ihf rfl)

/-! ### Queries -/

/-- Preparing a query is planning the step whose rows it reports, at the root, and checking the tags
that its shape asks for. -/
theorem prepare_eq_ok_iff {s : Step} {settings : Settings} {q : PreparedQuery} :
    s.prepare settings = .ok q ↔
      ∃ p m, s.shape.1.plan settings.patternSizeLimit .root {} = .ok (p, m) ∧
        checkTags p.bindings s.shape.2 = .ok () ∧
        q = { plan := p.ref.plan, shape := s.shape.2, tags := p.bindings.names } := by
  simp only [prepare, StateT.run]
  cases hp : s.shape.1.plan settings.patternSizeLimit .root {} with
  | error e => simp [bind, Except.bind]
  | ok r =>
    obtain ⟨p, m⟩ := r
    cases hc : checkTags p.bindings s.shape.2 with
    | error e => simp [hc, bind, Except.bind]
    | ok u => simp [hc, bind, Except.bind, pure, Except.pure, eq_comm]

/-- A query is prepared by planning the step whose rows it reports, at the root. -/
theorem plans_of_prepare {s : Step} {settings : Settings} {q : PreparedQuery}
    (h : s.prepare settings = .ok q) :
    ∃ p m, Plans settings.patternSizeLimit s.shape.1 .root {} p m ∧ q.plan = p.ref.plan ∧
      q.shape = s.shape.2 ∧ q.tags = p.bindings.names := by
  obtain ⟨p, m, hp, -, rfl⟩ := prepare_eq_ok_iff.1 h
  exact ⟨p, m, plans_of_plan hp, rfl, rfl, rfl⟩

end Step

end QuadWalk
