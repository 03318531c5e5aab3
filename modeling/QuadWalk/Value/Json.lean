import QuadWalk.Json.Source
import QuadWalk.Json.Tree
import QuadWalk.Value.Basic
import QuadWalk.Value.Datatype

/-!
# Values in JSON

A value has two JSON forms. The *linked-data form* shows texts, integers, finite doubles and truth
values as themselves and everything else as an object with `@id` or `@value`. The *tagged form*
names the kind of every value and can be read back.
-/

namespace QuadWalk.Value

/-! ### The linked-data form -/

/-- An object that gives a lexical form with its datatype. -/
def typedObject (lexical datatype : String) : Json :=
  .object [("@value", .string lexical), ("@type", .string datatype)]

/-- The linked-data form of a value. JSON has no infinities and no not-a-number, so these are
written as typed literals. -/
def toLinkedData : Value → Json
  | iri text => .object [("@id", .string text)]
  | blank label => .object [("@id", .string ("_:" ++ label))]
  | string text => .string text
  | lang text language => .object [("@value", .string text), ("@language", .string language)]
  | int n => .int n.toInt
  | float x => if x.isFinite then .float x else typedObject x.toText Datatype.double
  | bool b => .bool b
  | typed lexical datatype => typedObject lexical datatype

/-! ### The tagged form -/

/-- The kinds of values. -/
inductive Kind where
  | iri
  | blank
  | string
  | lang
  | int
  | float
  | bool
  | typed
  deriving DecidableEq

/-- The kinds with the names that they have in the tagged form. -/
def kindNames : List (Kind × String) :=
  [(.iri, "iri"), (.blank, "blank_node"), (.string, "string"), (.lang, "lang_string"),
    (.int, "int"), (.float, "float"), (.bool, "bool"), (.typed, "typed")]

/-- The kind of a value and, in JSON, what it holds. A double that is not finite is written as
`null`. -/
def tagged : Value → String × Json
  | iri text => ("iri", .string text)
  | blank label => ("blank_node", .string label)
  | string text => ("string", .string text)
  | lang text language =>
    ("lang_string", .object [("value", .string text), ("language", .string language)])
  | int n => ("int", .int n.toInt)
  | float x => ("float", if x.isFinite then .float x else .null)
  | bool b => ("bool", .bool b)
  | typed lexical datatype =>
    ("typed", .object [("lexical", .string lexical), ("datatype", .string datatype)])

/-- The tagged form of a value. -/
def toTagged (v : Value) : Json :=
  let (kind, content) := v.tagged
  .object [("kind", .string kind), ("value", content)]

/-- The kind of a given name. -/
def kindNamed? (name : String) : Option Kind :=
  (kindNames.find? fun kind => kind.2 = name).map Prod.fst

/-- The text of a JSON string. -/
def textOf? : JsonSource → Option String
  | .string s => s
  | _ => none

/-- The kind whose name a JSON string is. -/
def kindText? (tag : JsonSource) : Option Kind := (textOf? tag).bind kindNamed?

/-- The kind that the field of a tag gives: its name, or an object whose one field has that name and
no content. -/
def kindOf? : JsonSource → Option Kind
  | .object [(some name, .null)] => kindNamed? name
  | tag => kindText? tag

/-- The texts of the two fields of an object that may have more fields; each occurs once. -/
def pairOf? (first second : String) : JsonSource → Option (String × String)
  | .object fields => do
    let fields ← JsonSource.named? fields
    match fields.filter (fun f => f.1 = first), fields.filter (fun f => f.1 = second) with
    | [(_, a)], [(_, b)] =>
      let a ← textOf? a
      let b ← textOf? b
      pure (a, b)
    | _, _ => none
  | _ => none

/-- The value of a kind that some content gives. An integer may stand for a double. -/
def ofContent? : Kind → JsonSource → Option Value
  | .iri, content => (textOf? content).map iri
  | .blank, content => (textOf? content).map blank
  | .string, content => (textOf? content).map string
  | .lang, content => (pairOf? "value" "language" content).map fun (s, l) => lang s l
  | .typed, content => (pairOf? "lexical" "datatype" content).map fun (s, d) => typed s d
  | .int, .number (some (.int n)) =>
    if Int64.minValue.toInt ≤ n ∧ n ≤ Int64.maxValue.toInt then some (int (Int64.ofInt n)) else none
  | .float, .number (some (.int n)) => some (float (Binary64.ofInt n))
  | .float, .number (some (.float x)) => some (float x)
  | .bool, .bool b => some (bool b)
  | _, _ => none

/-- Reads the tagged form: an object with `kind` and `value` in either order, other fields being
skipped, or an array of the name of the kind and the content. Content that comes before its kind is
kept until the kind is known and has to be sound as a whole. -/
def ofTagged? : JsonSource → Option Value
  | .array [tag, content] => do ofContent? (← kindText? tag) content
  | .object fields => do
    let fields ← JsonSource.named? fields
    match fields.filter fun f => f.1 = "kind" ∨ f.1 = "value" with
    | [("kind", tag), ("value", content)] => ofContent? (← kindOf? tag) content
    | [("value", content), ("kind", tag)] =>
      if content.isSound (JsonSource.depthLimit - 1) then ofContent? (← kindOf? tag) content
      else none
    | _ => none
  | _ => none

/-- Reads the tagged form from its text. -/
def ofJsonText? (text : String) : Option Value := (JsonSource.read? text).bind ofTagged?

end QuadWalk.Value
