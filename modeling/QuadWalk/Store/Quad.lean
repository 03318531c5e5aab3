import QuadWalk.Store.Graph

/-!
# Quads

A quad is one fact: a subject, a predicate, an object and perhaps a label. A store keeps it by the
numbers of its values.
-/

namespace QuadWalk

/-- A fact about values. -/
structure Quad where
  subject : Value
  predicate : Value
  object : Value
  label : Option Value := none
  deriving DecidableEq

/-- A fact about IRIs; an empty label means none. -/
def Quad.ofIris (subject predicate object label : String) : Quad where
  subject := .iri subject
  predicate := .iri predicate
  object := .iri object
  label := if label = "" then none else some (.iri label)

/-- A fact about nodes. -/
structure StoredQuad where
  subject : NodeId
  predicate : NodeId
  object : NodeId
  label : Option NodeId
  deriving DecidableEq

/-- The end of a quad at which a walk in a direction begins. -/
def StoredQuad.near (q : StoredQuad) : Direction → NodeId
  | .forward => q.subject
  | .backward => q.object

/-- The end of a quad at which a walk in a direction ends. -/
def StoredQuad.far (q : StoredQuad) : Direction → NodeId
  | .forward => q.object
  | .backward => q.subject

end QuadWalk
