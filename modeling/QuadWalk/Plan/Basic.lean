import QuadWalk.Query.Step

/-!
# Plans

A plan is a tree of operators on rows. Where a step has a placeholder, a plan has the plan of the
rows that it stands for; inside a branch these are an *anchor*, the one row for which the branch is
run.
-/

namespace QuadWalk

/-- The number of an anchor. -/
abbrev AnchorId := Nat

/-- A tree of operators on rows. -/
inductive Plan where
  /-- The nodes of the given values. -/
  | fixed (values : List Value)
  /-- All nodes. -/
  | allNodes
  /-- The row for which a branch is run. -/
  | anchor (id : AnchorId)
  /-- Walks along the edges whose predicate is a node of another plan. -/
  | hop (traversal : Traversal) (origin via : Plan)
  /-- Walks to the predicates of the edges. -/
  | predicates (direction : Direction) (origin : Plan)
  /-- Binds a tag to the values of one predicate. -/
  | save (direction : Direction) (origin : Plan) (predicate : Value) (tag : String)
  /-- Binds a tag to the predicates of the edges. -/
  | savePredicates (direction : Direction) (origin : Plan) (tag : String)
  /-- Keeps rows with an edge to one of the given values. -/
  | has (direction : Direction) (origin via : Plan) (values : List Value)
  /-- Keeps rows at one of the given values. -/
  | isOneOf (origin : Plan) (values : List Value)
  /-- Keeps rows by the text of their value. -/
  | filter (origin : Plan) (matcher : TextMatcher)
  /-- Keeps rows by the natural order of their value. -/
  | compare (comparison : Comparison) (origin : Plan) (operand : Value)
  /-- Goes back to where the last walk began. -/
  | back (origin : Plan)
  /-- Goes to what a tag is bound to. -/
  | backTo (origin : Plan) (tag : String)
  /-- Binds a tag to the place of each row. -/
  | tag (origin : Plan) (name : String)
  /-- The rows of all plans, each once. -/
  | union (origin : Plan) (branches : List Plan)
  /-- The rows whose place occurs in every branch. -/
  | intersect (origin : Plan) (branches : List Plan)
  /-- The rows whose place occurs in no branch. -/
  | difference (origin : Plan) (branches : List Plan)
  /-- The rows for which every branch has a row. -/
  | whereAll (origin : Plan) (anchor : AnchorId) (branches : List Plan)
  /-- The rows with the bindings of a branch, if it has a row. -/
  | optional (origin : Plan) (anchor : AnchorId) (branch : Plan)
  /-- The first rows. -/
  | limit (origin : Plan) (count : Nat)
  /-- The rows after the first ones. -/
  | skip (origin : Plan) (count : Nat)
  /-- The first row at each place. -/
  | unique (origin : Plan)
  /-- The rows in the total order of their values. -/
  | order (origin : Plan)
  /-- The number of rows. -/
  | count (origin : Plan)

/-- What is known of whether the rows of a plan have a traversal that can be undone. -/
inductive HopState where
  | present
  | absent
  | unknown
  deriving DecidableEq

namespace Plan

/-- The plan that provides the rows on which an operator acts. -/
def origin? : Plan → Option Plan
  | fixed _ => none
  | allNodes => none
  | anchor _ => none
  | hop _ p _ => some p
  | predicates _ p => some p
  | save _ p _ _ => some p
  | savePredicates _ p _ => some p
  | has _ p _ _ => some p
  | isOneOf p _ => some p
  | filter p _ => some p
  | compare _ p _ => some p
  | back p => some p
  | backTo p _ => some p
  | tag p _ => some p
  | union p _ => some p
  | intersect p _ => some p
  | difference p _ => some p
  | whereAll p _ _ => some p
  | optional p _ _ => some p
  | limit p _ => some p
  | skip p _ => some p
  | unique p => some p
  | order p => some p
  | count p => some p

/-- Whether an operator needs all rows of its origin before it has a row. -/
def isBreaker : Plan → Bool
  | order _ => true
  | unique _ => true
  | count _ => true
  | _ => false

/-- What is known of the traversals of the rows. Operators that keep the place of a row keep what is
known; an anchor, a union or a step back may have either. -/
def hopState : Plan → HopState
  | hop _ _ _ => .present
  | predicates _ _ => .present
  | fixed _ => .absent
  | allNodes => .absent
  | count _ => .absent
  | backTo _ _ => .absent
  | anchor _ => .unknown
  | union _ _ => .unknown
  | back _ => .unknown
  | save _ p _ _ => p.hopState
  | savePredicates _ p _ => p.hopState
  | has _ p _ _ => p.hopState
  | isOneOf p _ => p.hopState
  | filter p _ => p.hopState
  | compare _ p _ => p.hopState
  | tag p _ => p.hopState
  | intersect p _ => p.hopState
  | difference p _ => p.hopState
  | whereAll p _ _ => p.hopState
  | optional p _ _ => p.hopState
  | limit p _ => p.hopState
  | skip p _ => p.hopState
  | unique p => p.hopState
  | order p => p.hopState

end Plan

end QuadWalk
