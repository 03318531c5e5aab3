import QuadWalk.Query.Entity
import QuadWalk.Query.TextFilter

/-!
# Steps

A query is a tree of steps. A step acts on the rows of its *origin*, the step before it; a step that
begins without one acts on the placeholder, which stands for the rows that the surroundings provide.
The *property* of a traversal is itself a step, whose results are the predicates to walk along.
-/

namespace QuadWalk

/-- The ways of walking along edges: in one direction, or backward and then forward. -/
inductive Traversal where
  | forward
  | backward
  | both
  deriving DecidableEq

/-- The name of a traversal in plans. -/
def Traversal.name : Traversal → String
  | forward => "Forward"
  | backward => "Backward"
  | both => "Both"

/-- The directions that a traversal walks in, one after the other. -/
def Traversal.directions : Traversal → List Direction
  | forward => [.forward]
  | backward => [.backward]
  | both => [.backward, .forward]

/-- The operations of a step on the results of other steps. -/
inductive SetOperation where
  | union
  | intersect
  | difference
  deriving DecidableEq

/-- The name of a set operation in messages. -/
def SetOperation.name : SetOperation → String
  | union => "Union"
  | intersect => "Intersect"
  | difference => "Difference"

/-- A step of a query. -/
inductive Step where
  /-- The given identifiers. -/
  | entities (ids : List EntityId)
  /-- The given values, or all nodes if there are none. -/
  | vertex (values : List Value)
  /-- The rows that the surroundings provide. -/
  | placeholder
  /-- Walks along the edges whose predicate is a result of a step. -/
  | visit (traversal : Traversal) (origin property : Step)
  /-- Undoes the last traversal. -/
  | back (origin : Step)
  /-- Goes to what a tag is bound to. -/
  | backTo (origin : Step) (tag : String)
  /-- Binds each property of a list to its values. -/
  | properties (direction : Direction) (origin : Step) (names : List String)
  /-- Goes to the predicates of the edges, each once. -/
  | propertyNames (direction : Direction) (origin : Step)
  /-- Binds a tag to the predicates of the edges. -/
  | propertyNamesAs (direction : Direction) (origin : Step) (tag : String)
  /-- Keeps what has an edge to one of the given values. -/
  | has (direction : Direction) (origin property : Step) (values : List Value)
  /-- Keeps what is one of the given values. -/
  | isOneOf (origin : Step) (values : List Value)
  /-- Combines the results with those of other steps. -/
  | combine (operation : SetOperation) (origin : Step) (steps : List Step)
  /-- Keeps values by their text. -/
  | filter (origin : Step) (condition : TextFilter)
  /-- Keeps values by their natural order to an operand. -/
  | compare (comparison : Comparison) (origin : Step) (operand : Value)
  /-- Counts the results. -/
  | count (origin : Step)
  /-- Keeps the first results. -/
  | limit (origin : Step) (count : Nat)
  /-- Drops the first results. -/
  | skip (origin : Step) (count : Nat)
  /-- Keeps the first result at each place. -/
  | unique (origin : Step)
  /-- Sorts the results. -/
  | order (origin : Step)
  /-- Binds a tag to each result. -/
  | tagged (origin : Step) (name : String)
  /-- Keeps the results for which every one of some steps has a result. -/
  | whereAll (origin : Step) (steps : List Step)
  /-- Adds the bindings of a step, if it has a result. -/
  | optional (origin step : Step)
  /-- Runs a step with the results in place of its placeholder. -/
  | follow (origin step : Step)
  /-- Reports bindings, all or some. -/
  | select (origin : Step) (tags : Option (List String))
  /-- Reports the bindings of the first result. -/
  | selectFirst (origin : Step)
  /-- Reports one document for each place. -/
  | documents (origin : Step)

namespace Step

/-- The kind of a step, as messages name it. -/
def kind : Step → String
  | entities _ => "Entities"
  | vertex _ => "Vertex"
  | placeholder => "Placeholder"
  | visit .forward _ _ => "Visit"
  | visit .backward _ _ => "VisitReverse"
  | visit .both _ _ => "Both"
  | back _ => "Back"
  | backTo _ _ => "Back"
  | properties .forward _ _ => "Properties"
  | properties .backward _ _ => "ReverseProperties"
  | propertyNames .forward _ => "PropertyNames"
  | propertyNames .backward _ => "ReversePropertyNames"
  | propertyNamesAs .forward _ _ => "PropertyNamesAs"
  | propertyNamesAs .backward _ _ => "ReversePropertyNamesAs"
  | has .forward _ _ _ => "Has"
  | has .backward _ _ _ => "HasReverse"
  | isOneOf _ _ => "Is"
  | combine operation _ _ => operation.name
  | filter _ _ => "Filter"
  | compare comparison _ _ => comparison.name
  | count _ => "Count"
  | limit _ _ => "Limit"
  | skip _ _ => "Skip"
  | unique _ => "Unique"
  | order _ => "Order"
  | tagged _ _ => "As"
  | whereAll _ _ => "Where"
  | optional _ _ => "Optional"
  | follow _ _ => "Follow"
  | select _ _ => "Select"
  | selectFirst _ => "SelectFirst"
  | documents _ => "Documents"

end Step

end QuadWalk
