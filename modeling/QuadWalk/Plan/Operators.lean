import QuadWalk.Plan.Basic
import QuadWalk.Plan.Row
import QuadWalk.Query.LazyList

/-!
# Operators on items

What each operator of a plan does to the items of its origin. Operators that look at one row after
the other leave an error where it stands; operators that need all rows first answer with the first
error and nothing else.
-/

namespace QuadWalk

/-- What a plan yields one after another. -/
abbrev Items := LazyList Item

namespace Items

/-! ### One row after the other -/

/-- Replaces each row by any number of rows, or by an error. -/
def expand (f : Row → Except QueryError (List Row)) (items : Items) : Items :=
  items.flatMap fun
    | .error e => [.error e]
    | .ok r =>
      match f r with
      | .ok rows => rows.map .ok
      | .error e => [.error e]

/-- Keeps the rows that pass a test; an error of the test takes the place of the row. -/
def keep (test : Row → Except QueryError Bool) : Items → Items :=
  expand fun r => (test r).map fun passes => if passes then [r] else []

/-- Changes or drops each row. -/
def change (f : Row → Option Row) : Items → Items :=
  expand fun r => .ok (f r).toList

/-- Drops the first rows; errors are not counted and stay. -/
def skip : Nat → Items → Items
  | 0, items => items
  | _ + 1, .nil => .nil
  | n + 1, .cons (.ok _) tail => skip n (tail ())
  | n + 1, .cons (.error e) tail => .cons (.error e) fun _ => skip (n + 1) (tail ())

/-- The place and the tags of a row. An error has neither. -/
def key? : Item → Option (Position × TagMap Position)
  | .ok r => some (r.position, r.tags)
  | .error _ => none

/-- Keeps the first of the rows at one place with the same tags. -/
def distinct (items : Items) : Items := LazyList.distinct key? items

/-- Keeps the rows at some nodes and those at a computed value that equals one of some values. -/
def isOneOf (nodes : NodeSet) (values : List Value) : Items → Items :=
  keep fun r => .ok <|
    match r.position with
    | .stored id => nodes id
    | .computed v => values.contains v

/-! ### All rows first -/

/-- The rows, or the first error. -/
def rows? (items : Items) : Except QueryError (List Row) := items.traverse id

/-- Passes what depends on all rows on to the items that it gives; an error is the only item. -/
def drain {α : Type} (prepared : Except QueryError α) (f : α → Items) : Items :=
  match prepared with
  | .ok a => f a
  | .error e => .ofList [.error e]

/-- The items of some rows. -/
def ofRows (rows : List Row) : Items := .ofList (rows.map .ok)

/-- The nodes at which the rows are, leaving out computed values. -/
def nodeSet? (items : Items) : Except QueryError NodeSet :=
  (rows? items).map fun rows => .ofList (rows.filterMap (·.position.node?))

/-- The places at which the rows are. -/
def positions? (items : Items) : Except QueryError (Std.HashSet Position) :=
  (rows? items).map fun rows => .ofList (rows.map (·.position))

/-- Keeps the first row at each place. -/
def unique (items : Items) : Items :=
  drain (rows? items) fun rows =>
    ofRows ((LazyList.ofList rows).distinct fun r => some r.position).toList

/-- A row with the value at its place. -/
def withValue (g : Graph) (item : Item) : Except QueryError (Value × Row) := do
  let r ← item
  let v ← g.valueAt r.position
  pure (v, r)

/-- Sorts the rows by the total order of their values; rows with one value keep their order. -/
def order (g : Graph) (items : Items) : Items :=
  drain (items.traverse (withValue g)) fun rows =>
    ofRows ((rows.mergeSort fun a b => a.1.totalLe b.1).map Prod.snd)

/-- Counts the rows. -/
def count (items : Items) : Items :=
  drain (rows? items) fun rows => ofRows [{ position := .computed (.int (.ofNat rows.length)) }]

/-! ### Sets -/

/-- Keeps the rows whose place is in all of some sets, or in none of them. -/
def sift (inAll : Bool) (sets : List (Std.HashSet Position)) : Items → Items :=
  keep fun r => .ok <|
    if inAll then sets.all (·.contains r.position) else !sets.any (·.contains r.position)

/-- Keeps the rows whose place occurs in all branches, or in none of them. -/
def siftBy (inAll : Bool) (branches : List (Unit → Items)) (items : Unit → Items) : Items :=
  drain (branches.mapM fun branch => positions? (branch ())) fun sets => sift inAll sets (items ())

/-! ### Branches that are run for one row -/

/-- The tags of a row with those of the first row of each branch over them, in the order of the
branches; none if a branch has no row. -/
def joinTags (tags : TagMap Position) :
    List (Unit → Items) → Except QueryError (Option (TagMap Position))
  | [] => .ok (some tags)
  | branch :: branches =>
    match (branch ()).head? with
    | none => .ok none
    | some (.error e) => .error e
    | some (.ok r) => joinTags (tags.overlay r.tags) branches

/-- Joins a row with the first row of each of its branches. A row for which some branch has no row
is dropped or, if that is optional, kept as it is. -/
def join (isOptional : Bool) (r : Row) (branches : List (Unit → Items)) :
    Except QueryError (List Row) :=
  (joinTags r.tags branches).map fun
    | some tags => [{ r with tags }]
    | none => if isOptional then [r] else []

end Items

namespace Graph

/-- The nodes of values, leaving out values that are at no node. -/
def lookupAll (g : Graph) (values : List Value) : List NodeId := values.filterMap g.lookup

/-- The rows after a traversal along edges whose predicate is in a set. -/
def walk (g : Graph) (t : Traversal) (predicates : NodeSet) (r : Row) :
    Except QueryError (List Row) :=
  match r.position.node? with
  | none => .ok []
  | some id => do
    let reached ← t.directions.mapM fun d => ofStore (g.neighbors id predicates d)
    pure (reached.flatten.map r.moveTo)

/-- The rows after a traversal to the predicates of the edges. -/
def walkToPredicates (g : Graph) (d : Direction) (r : Row) : Except QueryError (List Row) :=
  match r.position.node? with
  | none => .ok []
  | some id => (ofStore (g.predicates id d)).map fun ids => ids.map r.moveTo

/-- The rows with a tag bound to each far end of the edges whose predicate is in a set. -/
def save (g : Graph) (d : Direction) (predicates : NodeSet) (tag : String) (r : Row) :
    Except QueryError (List Row) :=
  match r.position.node? with
  | none => .ok []
  | some id => (ofStore (g.neighbors id predicates d)).map fun ids => ids.map (r.bind tag)

/-- The rows with a tag bound to each predicate of the edges. -/
def savePredicates (g : Graph) (d : Direction) (tag : String) (r : Row) :
    Except QueryError (List Row) :=
  match r.position.node? with
  | none => .ok []
  | some id => (ofStore (g.predicates id d)).map fun ids => ids.map (r.bind tag)

/-- Whether an edge whose predicate is in a set leads from a row to a node of another set. -/
def reaches (g : Graph) (d : Direction) (predicates targets : NodeSet) (r : Row) :
    Except QueryError Bool :=
  match r.position.node? with
  | none => .ok false
  | some id => (ofStore (g.neighbors id predicates d)).map fun ids => ids.any targets

/-- Whether the value of a row passes a filter. -/
def passes (g : Graph) (m : TextMatcher) (r : Row) : Except QueryError Bool :=
  (g.valueAt r.position).map m.keeps

/-- Whether the value of a row stands to an operand as a comparison says. -/
def compares (g : Graph) (c : Comparison) (operand : Value) (r : Row) :
    Except QueryError Bool := do
  let v ← g.valueAt r.position
  match c.evaluate v operand with
  | .ok holds => pure holds
  | .error e => throw (.typeMismatch e)

end Graph

end QuadWalk
