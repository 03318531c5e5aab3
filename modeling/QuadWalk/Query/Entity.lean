import QuadWalk.Query.Error
import QuadWalk.Text.Blank

/-!
# Identifiers in queries

An `EntityId` names a node by its IRI or its blank node label. It is written as the IRI, bare or
between angle brackets, or as `_:` and the label.
-/

namespace QuadWalk

/-- A reference to a node by its identifier. -/
inductive EntityId where
  | iri (text : String)
  | blank (label : String)
  deriving DecidableEq

namespace EntityId

/-- The text between angle brackets, or the whole text if it does not stand between two. -/
def withoutBrackets (cs : List Char) : List Char :=
  match cs with
  | '<' :: rest => if rest.getLast? = some '>' then rest.dropLast else cs
  | _ => cs

/-- Reads an identifier; blanks around it do not matter. -/
def parse (text : String) : EntityId :=
  match Text.trim text.toList with
  | '_' :: ':' :: label => blank (String.ofList label)
  | cs => iri (String.ofList (withoutBrackets cs))

/-- The value of an identifier, which must not be empty. -/
def value : EntityId → Except QueryError Value
  | iri text => if text = "" then .error (.malformedStep .emptyIri) else .ok (.iri text)
  | blank label => if label = "" then .error (.malformedStep .emptyLabel) else .ok (.blank label)

end EntityId

end QuadWalk
