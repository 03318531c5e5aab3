import QuadWalk.Numeric.Numeral
import QuadWalk.Value.Basic

/-!
# Graphs

A `Graph` is what a query needs to know of a store: its nodes, known by numbers, their values, and
the edges at a node. Whatever else a query does, such as sorting or intersecting, it does by itself.
-/

namespace QuadWalk

/-- The number of a node. -/
abbrev NodeId := Nat

/-- A set of nodes. -/
abbrev NodeSet := NodeId → Bool

/-- The set of some nodes. -/
def NodeSet.ofList (ids : List NodeId) : NodeSet := fun id => ids.contains id

/-- The two ways along an edge: from subject to object, and back. -/
inductive Direction where
  | forward
  | backward
  deriving DecidableEq

/-- The name of a direction in plans. -/
def Direction.name : Direction → String
  | forward => "Forward"
  | backward => "Backward"

/-- What a store may answer instead of a result. -/
inductive StoreError where
  /-- No node has this number. -/
  | unknownNode (id : NodeId)
  deriving DecidableEq

/-- What the error says. -/
def StoreError.message : StoreError → String
  | unknownNode id => "unknown node id " ++ Numeral.ofNat id

/-- A store as a query sees it. -/
structure Graph where
  /-- All nodes, in the order in which the store lists them. -/
  nodes : List NodeId
  /-- How many nodes there are. -/
  nodeCount : Nat
  /-- The node of a value. -/
  lookup : Value → Option NodeId
  /-- The value of a node. -/
  valueOf : NodeId → Except StoreError Value
  /-- The far ends of the edges at a node whose predicate is in a set, one for each edge. -/
  neighbors : NodeId → NodeSet → Direction → Except StoreError (List NodeId)
  /-- The predicates of the edges at a node, each once, in the order of the edges. -/
  predicates : NodeId → Direction → Except StoreError (List NodeId)

end QuadWalk
