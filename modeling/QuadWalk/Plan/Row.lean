import QuadWalk.Plan.TagMap
import QuadWalk.Query.Error

/-!
# Rows

A row is one result on its way through a plan: the place where it is, what its tags are bound to,
and the places that its traversals left behind.
-/

namespace QuadWalk

/-- Where a row is: at a node, or at a value that the query computed. A computed value is never at a
node, even if some node has that value. -/
inductive Position where
  | stored (id : NodeId)
  | computed (value : Value)
  deriving DecidableEq, Hashable

/-- The node at a position. -/
def Position.node? : Position → Option NodeId
  | stored id => some id
  | computed _ => none

/-- The value at a position. -/
def Graph.valueAt (g : Graph) : Position → Except QueryError Value
  | .stored id => ofStore (g.valueOf id)
  | .computed v => .ok v

/-- A result on its way through a plan. -/
structure Row where
  position : Position
  tags : TagMap Position := .empty
  /-- The places left behind, the last one first. -/
  trail : List Position := []
  deriving DecidableEq

namespace Row

/-- The row at a node, without tags and trail. -/
def atNode (id : NodeId) : Row := { position := .stored id }

/-- The row after a traversal to a node. -/
def moveTo (r : Row) (id : NodeId) : Row :=
  { r with position := .stored id, trail := r.position :: r.trail }

/-- The row with a tag bound to a node. -/
def bind (r : Row) (tag : String) (id : NodeId) : Row :=
  { r with tags := r.tags.insert tag (.stored id) }

/-- The row with a tag bound to where it is. -/
def mark (r : Row) (tag : String) : Row := { r with tags := r.tags.insert tag r.position }

/-- The row before its last traversal, with the tags that it has now. -/
def back? (r : Row) : Option Row :=
  match r.trail with
  | [] => none
  | p :: trail => some { r with position := p, trail }

/-- The row at what a tag is bound to, with nothing to go back to. -/
def backTo? (r : Row) (tag : String) : Option Row :=
  (r.tags.find? tag).map fun p => { r with position := p, trail := [] }

end Row

/-- What a plan yields one after another: a row, or an error in place of one. -/
abbrev Item := Except QueryError Row

end QuadWalk
