import QuadWalk.Text.Blank
import QuadWalk.Value.Basic
import QuadWalk.Value.Datatype

/-!
# Literals

A literal comes as a lexical form with a datatype or a language. Integers, doubles and truth values
become values of their own form when their lexical form, without the blanks around it, denotes one;
otherwise lexical form and datatype are kept as they are.
-/

namespace QuadWalk.Value

/-- The truth value that a lexical form denotes. -/
def bool? (lexical : List Char) : Option Bool :=
  match String.ofList lexical with
  | "true" | "1" => some true
  | "false" | "0" => some false
  | _ => none

/-- The value of a literal with a datatype. -/
def ofTyped (lexical datatype : String) : Value :=
  let verbatim := typed lexical datatype
  let content := Text.trim lexical.toList
  if datatype = Datatype.string ∨ datatype = Datatype.langString then string lexical
  else if datatype ∈ Datatype.integers then ((Numeral.int64? content).map int).getD verbatim
  else if datatype ∈ Datatype.floats then ((Numeral.binary64? content).map float).getD verbatim
  else if datatype = Datatype.boolean then ((bool? content).map bool).getD verbatim
  else verbatim

/-- The value of a literal: a language makes it a text in that language, whatever its datatype, and
without either it is a plain text. -/
def ofLiteral (lexical : String) (datatype language : Option String) : Value :=
  match language, datatype with
  | some language, _ => lang lexical language
  | none, some datatype => ofTyped lexical datatype
  | none, none => string lexical

end QuadWalk.Value
