import QuadWalk.Plan.Items
import QuadWalk.Value.Json

/-!
# Answers

The rows of a query are reported in the shape that its root asks for: as the values of their places,
as maps from tags to values, or as documents that gather the rows at one place.
-/

namespace QuadWalk

/-- How rows are reported. -/
inductive Shape where
  /-- The value at the place of each row. -/
  | values
  /-- The tags of each row, or only some of them. -/
  | tags (wanted : Option (List String))
  /-- The tags of the first row. -/
  | first
  /-- A document for each place. -/
  | documents
  deriving DecidableEq

/-- The text of a shape. -/
def Shape.text : Shape → String
  | values => "Values"
  | tags none => "Tags(None)"
  | tags (some names) =>
    "Tags(Some([" ++ String.intercalate ", " (names.map Text.quoted) ++ "]))"
  | first => "First"
  | documents => "Documents"

/-- A value with the values of its fields. -/
structure Document where
  id : Value
  fields : TagMap (List Value)
  deriving DecidableEq

/-- One result of a query. -/
inductive Answer where
  | value (v : Value)
  | tags (bindings : TagMap Value)
  | document (d : Document)
  deriving DecidableEq

/-- What a query answers one after another: an answer, or an error in place of one. -/
abbrev Answers := LazyList (Except QueryError Answer)

/-! ### Documents -/

/-- The values of a field with one more, unless it is there. -/
def addValue (values : List Value) (v : Value) : List Value :=
  if values.contains v then values else values ++ [v]

/-- Fields with one more value for each tag. -/
def addValues (fields : TagMap (List Value)) (bindings : TagMap Value) : TagMap (List Value) :=
  bindings.entries.foldl
    (fun fields e => fields.insert e.1 (addValue ((fields.find? e.1).getD []) e.2)) fields

/-- The fields at one place. -/
abbrev Group := Position × TagMap (List Value)

/-- Adds bindings to the group of a place, which is a new one at the end if there is none. -/
def addToGroup (p : Position) (bindings : TagMap Value) : List Group → List Group
  | [] => [(p, addValues .empty bindings)]
  | g :: gs =>
    if g.1 = p then (p, addValues g.2 bindings) :: gs else g :: addToGroup p bindings gs

namespace Graph

/-- The values that the tags of a row are bound to. -/
def tagValues (g : Graph) (r : Row) : Except QueryError (TagMap Value) := r.tags.traverse g.valueAt

/-- Adds an item to the groups of those before it. -/
def addItem (g : Graph) (groups : List Group) (item : Item) : Except QueryError (List Group) := do
  let r ← item
  let bindings ← g.tagValues r
  pure (addToGroup r.position bindings groups)

/-- The document of a group. -/
def document (g : Graph) (group : Group) : Except QueryError Document := do
  let id ← g.valueAt group.1
  pure { id, fields := group.2 }

/-- The documents of all items, in the order in which their places are first seen. -/
def documents (g : Graph) (items : Items) : Except QueryError (List Document) := do
  let groups ← items.foldlM g.addItem []
  groups.mapM g.document

/-! ### Answers -/

/-- Turns each row into an answer; an error stays where it is. -/
def answerEach (f : Row → Except QueryError Answer) (items : Items) : Answers :=
  items.map fun item => item.bind f

/-- The answer with the tags of a row. -/
def tagAnswer (g : Graph) (wanted : Option (List String)) (r : Row) : Except QueryError Answer :=
  let tags :=
    match wanted with
    | none => r.tags
    | some names => r.tags.restrict names.contains
  (tags.traverse g.valueAt).map .tags

/-- The answers that a shape makes of items. Documents are only known when all rows are, so an error
is their only answer. -/
def answers (g : Graph) (shape : Shape) (items : Unit → Items) : Answers :=
  match shape with
  | .values => answerEach (fun r => (g.valueAt r.position).map .value) (items ())
  | .tags wanted => answerEach (g.tagAnswer wanted) (items ())
  | .first => answerEach (g.tagAnswer none) (.limit 1 items)
  | .documents =>
    match g.documents (items ()) with
    | .ok ds => .ofList (ds.map fun d => .ok (.document d))
    | .error e => .ofList [.error e]

end Graph

/-! ### Answers as JSON -/

/-- A document in linked-data form: its identifier under `@id`, then its fields. A field named `@id`
takes the place of the identifier. -/
def Document.toLinkedData (d : Document) : Json :=
  .object <| d.fields.entries.foldl
    (fun object e => Json.put object e.1 (.array (e.2.map Value.toLinkedData)))
    [("@id", .string d.id.identifier)]

namespace Answer

/-- An answer in linked-data form. -/
def toLinkedData : Answer → Json
  | value v => v.toLinkedData
  | tags bindings => .object (bindings.entries.map fun e => (e.1, e.2.toLinkedData))
  | document d => d.toLinkedData

/-- An answer in tagged form. -/
def toTagged : Answer → Json
  | value v => .object [("value", v.toTagged)]
  | tags bindings =>
    .object [("tags", .object (bindings.entries.map fun e => (e.1, e.2.toTagged)))]
  | document d =>
    .object [("document", .object
      [("id", d.id.toTagged),
        ("properties",
          .object (d.fields.entries.map fun e => (e.1, .array (e.2.map Value.toTagged))))])]

end Answer

end QuadWalk
