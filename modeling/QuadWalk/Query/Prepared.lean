import QuadWalk.Plan.Explain
import QuadWalk.Query.Answer
import QuadWalk.Query.Cursor
import QuadWalk.Query.Planning
import QuadWalk.Query.Settings

/-!
# Prepared queries

`Step.prepare` plans a query, whose root may ask for a shape. A prepared query can be shown and run
on any graph.
-/

namespace QuadWalk

/-- A planned query. -/
structure PreparedQuery where
  plan : Plan
  shape : Shape
  /-- The tags that are bound at the root, those whose binding is older first. -/
  tags : List String

namespace PreparedQuery

/-- The text of a query: its shape and its plan. -/
def explain (q : PreparedQuery) : String := q.shape.text ++ "\n" ++ q.plan.explain

/-- The items of a query on a graph. -/
def items (q : PreparedQuery) (g : Graph) : Items := q.plan.items g []

/-- The answers of a query on a graph. -/
def answers (q : PreparedQuery) (g : Graph) : Answers := g.answers q.shape fun _ => q.items g

/-- Starts a query on a graph. -/
def run (q : PreparedQuery) (g : Graph) (s : Settings) :
    Cursor (Feed QueryError Answer) QueryError where
  source := fun _ => q.answers g
  maxResults := s.maxResults

end PreparedQuery

namespace Step

/-- The step whose rows are reported, and the shape in which they are. -/
def shape : Step → Step × Shape
  | select origin wanted => (origin, .tags wanted)
  | selectFirst origin => (origin, .first)
  | documents origin => (origin, .documents)
  | s => (s, .values)

/-- Checks that the tags that a shape asks for are bound. -/
def checkTags (e : Bindings) : Shape → Except QueryError Unit
  | .tags (some wanted) =>
    match wanted.find? fun tag => !e.contains tag with
    | some missing => .error (.unresolvedTag missing)
    | none => .ok ()
  | _ => .ok ()

/-- Prepares a query. -/
def prepare (s : Step) (settings : Settings) : Except QueryError PreparedQuery := do
  let (origin, shape) := s.shape
  let (planned, _) ← (origin.plan settings.patternSizeLimit .root).run {}
  checkTags planned.bindings shape
  pure { plan := planned.ref.plan, shape, tags := planned.bindings.names }

end Step

end QuadWalk
