import QuadWalk.Query.Bindings
import QuadWalk.Query.Step

/-!
# Planning a query

`Step.plan` turns a step into a plan. It carries along the bindings: a step sees what its origin
binds and passes that on to the steps after it.

## The model

* The property of a traversal and the steps of a set operation see the bindings of the step that
  holds them, and what they bind is lost.
* The steps of a condition see the bindings of its origin, with an anchor for their placeholder;
  what they bind is added to the bindings of the origin.
* A fragment that is followed has the plan of the origin for its placeholder.
* A count has one row that stands for all others, so no tag survives it.
-/

namespace QuadWalk

/-- The numbers that plans and anchors are given next. -/
structure Supply where
  nextAnchor : AnchorId := 0
  nextPlan : Nat := 1

/-- Planning: it may fail, and gives out numbers. -/
abbrev Planner := StateT Supply (Except QueryError)

/-- A planned step: its plan and the bindings after it. -/
structure Planned where
  ref : PlanRef
  bindings : Bindings

namespace Planner

/-- Gives a plan its identity. -/
def identify (p : Plan) : Planner PlanRef := fun s =>
  .ok (⟨s.nextPlan, p⟩, { s with nextPlan := s.nextPlan + 1 })

/-- A new anchor. -/
def newAnchor : Planner AnchorId := fun s =>
  .ok (s.nextAnchor, { s with nextAnchor := s.nextAnchor + 1 })

/-- Goes on with what was found, or fails with its error. -/
def check {α : Type} (found : Except QueryError α) : Planner α := fun s => found.map (·, s)

/-- Refuses a step that has a fault. -/
def refuse {α : Type} (fault : StepFault) : Planner α := check (.error (.malformedStep fault))

/-- Refuses a step unless a condition holds. -/
def require (condition : Bool) (fault : StepFault) : Planner Unit :=
  if condition then pure () else refuse fault

/-- A planned step with a new plan. -/
def planned (p : Plan) (e : Bindings) : Planner Planned := do
  let ref ← identify p
  pure ⟨ref, e⟩

/-- A planned step whose new plan binds a tag. -/
def binding (tag : String) (p : Plan) (e : Bindings) : Planner Planned := do
  let ref ← identify p
  pure ⟨ref, e.bind tag ref⟩

/-- Binds properties under their names, one after the other. -/
def saveEach (d : Direction) : List String → Planned → Planner Planned
  | [], o => pure o
  | name :: names, o => do
    let o ← binding name (.save d o.ref.plan (.iri name) name) o.bindings
    saveEach d names o

end Planner

/-- The plan of a set operation. -/
def SetOperation.plan : SetOperation → Plan → List Plan → Plan
  | union => .union
  | intersect => .intersect
  | difference => .difference

namespace Step

open Planner

mutual

/-- Plans a step. Patterns of filters must not be larger than a limit. -/
def plan (sizeLimit : Nat) : Step → Bindings → Planner Planned
  | entities ids, e => do
    let values ← check (ids.mapM EntityId.value)
    planned (.fixed values) e
  | vertex values, e => planned (if values.isEmpty then .allNodes else .fixed values) e
  | placeholder, e => pure ⟨e.placeholder, e⟩
  | visit t origin property, e => do
    let o ← plan sizeLimit origin e
    let via ← plan sizeLimit property e
    planned (.hop t o.ref.plan via.ref.plan) o.bindings
  | back origin, e => do
    let o ← plan sizeLimit origin e
    require (o.ref.plan.hopState ≠ .absent) .noTraversal
    planned (.back o.ref.plan) o.bindings
  | backTo origin tag, e => do
    let o ← plan sizeLimit origin e
    if o.bindings.contains tag then planned (.backTo o.ref.plan tag) o.bindings
    else check (.error (.unresolvedTag tag))
  | properties d origin names, e => do
    require (!names.isEmpty) .noNames
    let o ← plan sizeLimit origin e
    saveEach d names o
  | propertyNames d origin, e => do
    let o ← plan sizeLimit origin e
    planned (.unique (.predicates d o.ref.plan)) o.bindings
  | propertyNamesAs d origin tag, e => do
    let o ← plan sizeLimit origin e
    binding tag (.savePredicates d o.ref.plan tag) o.bindings
  | has d origin property values, e => do
    require (!values.isEmpty) (.noValues "Has")
    let o ← plan sizeLimit origin e
    let via ← plan sizeLimit property e
    planned (.has d o.ref.plan via.ref.plan values) o.bindings
  | isOneOf origin values, e => do
    require (!values.isEmpty) (.noValues "Is")
    let o ← plan sizeLimit origin e
    planned (.isOneOf o.ref.plan values) o.bindings
  | combine operation origin steps, e => do
    let o ← plan sizeLimit origin e
    require (!steps.isEmpty) (.noSteps operation.name)
    let branches ← planEach sizeLimit steps e
    planned (operation.plan o.ref.plan (branches.map (·.ref.plan))) o.bindings
  | filter origin condition, e => do
    let matcher ← check (TextMatcher.compile condition sizeLimit)
    let o ← plan sizeLimit origin e
    planned (.filter o.ref.plan matcher) o.bindings
  | compare c origin operand, e => do
    check ((c.checkOperand operand).mapError .typeMismatch)
    let o ← plan sizeLimit origin e
    planned (.compare c o.ref.plan operand) o.bindings
  | count origin, e => do
    let o ← plan sizeLimit origin e
    planned (.count o.ref.plan) { placeholder := o.bindings.placeholder }
  | limit origin n, e => do
    let o ← plan sizeLimit origin e
    planned (.limit o.ref.plan n) o.bindings
  | skip origin n, e => do
    let o ← plan sizeLimit origin e
    planned (.skip o.ref.plan n) o.bindings
  | unique origin, e => do
    let o ← plan sizeLimit origin e
    planned (.unique o.ref.plan) o.bindings
  | order origin, e => do
    let o ← plan sizeLimit origin e
    planned (.order o.ref.plan) o.bindings
  | tagged origin name, e => do
    require (name ≠ "") .noTagName
    let o ← plan sizeLimit origin e
    binding name (.tag o.ref.plan name) o.bindings
  | whereAll origin steps, e => do
    require (!steps.isEmpty) (.noSteps "Where")
    let o ← plan sizeLimit origin e
    let id ← newAnchor
    let ref ← identify (.anchor id)
    let branches ← planEach sizeLimit steps (o.bindings.withPlaceholder ref)
    let exported := branches.foldl (fun merged b => merged.mergeExports b.bindings) o.bindings
    planned (.whereAll o.ref.plan id (branches.map (·.ref.plan))) exported
  | optional origin step, e => do
    let o ← plan sizeLimit origin e
    let id ← newAnchor
    let ref ← identify (.anchor id)
    let branch ← plan sizeLimit step (o.bindings.withPlaceholder ref)
    planned (.optional o.ref.plan id branch.ref.plan) (o.bindings.mergeExports branch.bindings)
  | follow origin step, e => do
    let o ← plan sizeLimit origin e
    let fragment ← plan sizeLimit step (o.bindings.withPlaceholder o.ref)
    pure ⟨fragment.ref, fragment.bindings.withPlaceholder o.bindings.placeholder⟩
  | select _ _, _ => refuse (.nestedShape "Select")
  | selectFirst _, _ => refuse (.nestedShape "SelectFirst")
  | documents _, _ => refuse (.nestedShape "Documents")

/-- Plans steps that do not see one another. -/
def planEach (sizeLimit : Nat) : List Step → Bindings → Planner (List Planned)
  | [], _ => pure []
  | s :: ss, e => do
    let p ← plan sizeLimit s e
    let ps ← planEach sizeLimit ss e
    pure (p :: ps)

end

end Step

end QuadWalk
