import QuadWalk.Value.Literal

/-!
# Terms

What a graph file holds at the places of a statement: IRIs, blank nodes, literals, and statements in
quotation. The graph keeps values, so a quotation has no place in it, and neither has a literal
where an identifier belongs.
-/

namespace QuadWalk

/-- A term of a statement. -/
inductive Term where
  | iri (text : String)
  | blank (label : String)
  | literal (lexical : String) (datatype language : Option String)
  /-- A statement in quotation. -/
  | quotation (subject predicate object : Term)

/-- Why a term cannot be kept. -/
inductive TermError where
  /-- The graph has no quotations. -/
  | quotation
  /-- A literal stands where an identifier belongs. -/
  | literal (value : Value)
  deriving DecidableEq

/-- What the error says. -/
def TermError.message : TermError → String
  | quotation => "unsupported RDF term kind Triple"
  | literal value => "expected IRI or blank node, got literal " ++ Text.quoted value.display

namespace Term

/-- The value of a term. -/
def value : Term → Except TermError Value
  | iri text => .ok (.iri text)
  | blank label => .ok (.blank label)
  | literal lexical datatype language => .ok (.ofLiteral lexical datatype language)
  | quotation _ _ _ => .error .quotation

/-- The value of a term that has to be an identifier. -/
def identifier (t : Term) : Except TermError Value := do
  let v ← t.value
  if v.isIri || v.isBlank then .ok v else .error (.literal v)

end Term

end QuadWalk
