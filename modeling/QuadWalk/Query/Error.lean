import QuadWalk.Pattern.Compiled
import QuadWalk.Store.Graph
import QuadWalk.Value.Comparison

/-!
# Errors of queries

A query is refused when it is planned if a step is malformed, names a tag that is not bound, or
compares with an operand that cannot be compared. A planned query fails when it meets a value that
cannot be compared or when the store fails.
-/

namespace QuadWalk

/-- What is wrong with a step. -/
inductive StepFault where
  /-- An identifier is an IRI without text. -/
  | emptyIri
  /-- An identifier is a blank node without a label. -/
  | emptyLabel
  /-- A step of some kind has no values. -/
  | noValues (kind : String)
  /-- A step has no property names. -/
  | noNames
  /-- A step of some kind has no steps inside. -/
  | noSteps (kind : String)
  /-- A tag has no name. -/
  | noTagName
  /-- A step back has no traversal before it. -/
  | noTraversal
  /-- A result shape stands inside a query. -/
  | nestedShape (kind : String)
  /-- A text is refused as a pattern. -/
  | invalidPattern (text : String) (error : PatternError)
  /-- A plan replays a row outside the branches that have one. -/
  | strayAnchor (id : Nat)
  deriving DecidableEq

/-- What the fault is. -/
def StepFault.message : StepFault → String
  | emptyIri => "entity identifier has an empty IRI"
  | emptyLabel => "entity identifier has an empty blank node label"
  | noValues kind => kind ++ " needs at least one value"
  | noNames => "Properties needs at least one property name"
  | noSteps kind => kind ++ " needs at least one step"
  | noTagName => "As needs a tag name"
  | noTraversal => "Back has no preceding traversal to undo"
  | nestedShape kind => kind ++ " is a result shape and may only appear at the root of a query"
  | invalidPattern text error => "invalid pattern " ++ Text.quoted text ++ ": " ++ error.message
  | strayAnchor id => "placeholder anchor #" ++ Numeral.ofNat id ++ " used outside its branch"

/-- Why a query is refused or fails. -/
inductive QueryError where
  | malformedStep (fault : StepFault)
  | unresolvedTag (tag : String)
  | typeMismatch (error : Incomparable)
  | storeFault (error : StoreError)
  deriving DecidableEq

namespace QueryError

/-- What the error says. -/
def message : QueryError → String
  | malformedStep fault => "malformed step: " ++ fault.message
  | unresolvedTag tag => "unresolved tag `" ++ tag ++ "`"
  | typeMismatch error => error.message
  | storeFault error => "store fault: " ++ error.message

/-- Whether the error is of a kind that is found when a query is planned. -/
def isStatic : QueryError → Bool
  | malformedStep _ => true
  | unresolvedTag _ => true
  | _ => false

end QueryError

/-- An answer of a store as one of a query. -/
def ofStore {α : Type} : Except StoreError α → Except QueryError α
  | .ok a => .ok a
  | .error e => .error (.storeFault e)

end QuadWalk
