import QuadWalk.Plan.Basic

/-!
# Bindings

While a query is planned, `Bindings` know which tags can be used and which plan binds each of them,
and the plan that the placeholder stands for. A new binding hides older ones of its tag and leaves
other copies of the bindings as they are.
-/

namespace QuadWalk

/-- A plan with its identity: plans that were made at different times are told apart, even if they
are equal. -/
structure PlanRef where
  id : Nat
  plan : Plan

/-- The plans of tags and of the placeholder. -/
structure Bindings where
  /-- The tags with the plans that bind them, the latest first. -/
  cells : List (String × PlanRef) := []
  placeholder : PlanRef

namespace Bindings

/-- The bindings at the root of a query: no tags, and a placeholder for all nodes. -/
def root : Bindings where
  placeholder := { id := 0, plan := .allNodes }

/-- The same tags with another placeholder. -/
def withPlaceholder (e : Bindings) (placeholder : PlanRef) : Bindings := { e with placeholder }

/-- The bindings with one more. -/
def bind (e : Bindings) (tag : String) (p : PlanRef) : Bindings :=
  { e with cells := (tag, p) :: e.cells }

/-- The plan that binds a tag. -/
def find? (e : Bindings) (tag : String) : Option PlanRef := e.cells.lookup tag

/-- Whether a tag is bound. -/
def contains (e : Bindings) (tag : String) : Bool := (e.find? tag).isSome

/-- The bound tags, those whose binding is older first. -/
def names (e : Bindings) : List String := (e.cells.map Prod.fst).eraseDups.reverse

/-- The bindings after a tag is bound as a branch binds it, unless the base does so, too. -/
def adopt (base branch merged : Bindings) (tag : String) : Bindings :=
  match branch.find? tag with
  | none => merged
  | some p => if (base.find? tag).map (·.id) = some p.id then merged else merged.bind tag p

/-- The bindings with all that a branch binds in another way. -/
def mergeExports (base branch : Bindings) : Bindings :=
  branch.names.foldl (adopt base branch) base

end Bindings

end QuadWalk
