import QuadWalk.Numeric.Shortest
import QuadWalk.Numeric.Numeral
import QuadWalk.Text.Quoted

/-!
# Values

A `Value` is what stands at a node of the graph: an identifier (an IRI or a blank node) or a
literal. Values are equal when they have the same form and the same parts, doubles being told apart
by their bits, so that `1` and `1.0` are two values and so are `0.0` and `-0.0`.
-/

namespace QuadWalk

/-- A node of the graph: an identifier or a literal. -/
inductive Value where
  /-- An IRI. -/
  | iri (text : String)
  /-- A blank node, by its label. -/
  | blank (label : String)
  /-- A plain text. -/
  | string (text : String)
  /-- A text in a language. -/
  | lang (text language : String)
  /-- A 64-bit integer. -/
  | int (n : Int64)
  /-- A double-precision number. -/
  | float (x : Binary64)
  /-- A truth value. -/
  | bool (b : Bool)
  /-- A literal of any other datatype, by its lexical form. -/
  | typed (lexical datatype : String)
  deriving DecidableEq, Hashable, Inhabited

namespace Value

/-- Whether the value is an IRI. -/
def isIri : Value → Bool
  | iri _ => true
  | _ => false

/-- Whether the value is a blank node. -/
def isBlank : Value → Bool
  | blank _ => true
  | _ => false

/-- The text of a plain text or of a text in a language. -/
def text? : Value → Option String
  | string text => some text
  | lang text _ => some text
  | _ => none

/-- The text of a truth value. -/
def boolText (b : Bool) : String := if b then "true" else "false"

/-- The text by which a document or a record refers to the value. -/
def identifier : Value → String
  | iri text => text
  | blank label => "_:" ++ label
  | string text => text
  | lang text _ => text
  | int n => Numeral.ofInt n.toInt
  | float x => x.toText
  | bool b => boolText b
  | typed lexical _ => lexical

/-- The text by which plans and messages show the value. -/
def display : Value → String
  | iri text => "<" ++ text ++ ">"
  | blank label => "_:" ++ label
  | string text => Text.quoted text
  | lang text language => Text.quoted text ++ "@" ++ language
  | int n => Numeral.ofInt n.toInt
  | float x => x.toText
  | bool b => boolText b
  | typed lexical datatype => Text.quoted lexical ++ "^^<" ++ datatype ++ ">"

end Value

end QuadWalk
