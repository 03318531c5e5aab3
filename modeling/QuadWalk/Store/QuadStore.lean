import Std.Data.TreeMap
import Std.Data.TreeSet
import QuadWalk.Store.Interner
import QuadWalk.Store.Quad

/-!
# Quad stores

A `QuadStore` keeps quads in memory, each once, in the order in which they were added. Indexes lead
from a node to the quads that begin or end there and from a predicate to the quads that use it.

The nodes of the store are the values that occur in some quad, as label too. A value that only has a
number is no node: it can be looked up, but nothing can be walked from it.
-/

namespace QuadWalk

/-- The positions of quads in a store by some node of theirs. -/
abbrev QuadIndex := Std.TreeMap NodeId (Array Nat)

namespace QuadIndex

/-- The positions under a node, in ascending order. -/
def positions (index : QuadIndex) (id : NodeId) : Array Nat := index.getD id #[]

/-- The index with one more position under a node. -/
def add (index : QuadIndex) (id : NodeId) (position : Nat) : QuadIndex :=
  index.insert id ((index.positions id).push position)

end QuadIndex

/-- A set of quads with indexes. -/
structure QuadStore where
  interner : Interner := {}
  /-- The quads in the order in which they were added. -/
  quads : Array StoredQuad := #[]
  /-- The quads by their subjects. -/
  outgoing : QuadIndex := ∅
  /-- The quads by their objects. -/
  incoming : QuadIndex := ∅
  /-- The quads by their predicates. -/
  byPredicate : QuadIndex := ∅
  /-- The values that occur in quads. -/
  nodes : Std.TreeSet NodeId := ∅

namespace QuadStore

/-- The store without quads. -/
def empty : QuadStore := {}

/-! ### Adding quads -/

/-- The store after a value is given a number without becoming a node, and the number. -/
def intern (s : QuadStore) (v : Value) : NodeId × QuadStore :=
  let (id, interner) := s.interner.intern v
  (id, { s with interner })

/-- The store after a value becomes a node, and its number. -/
def internNode (s : QuadStore) (v : Value) : NodeId × QuadStore :=
  let (id, s) := s.intern v
  (id, { s with nodes := s.nodes.insert id })

/-- The index by the end at which walks in a direction begin. -/
def index (s : QuadStore) : Direction → QuadIndex
  | .forward => s.outgoing
  | .backward => s.incoming

/-- The quads at which walks from a node in a direction begin. -/
def edges (s : QuadStore) (id : NodeId) (direction : Direction) : List StoredQuad :=
  ((s.index direction).positions id).toList.filterMap fun position => s.quads[position]?

/-- Whether the store has a quad. -/
def contains (s : QuadStore) (q : StoredQuad) : Bool := (s.edges q.subject .forward).contains q

/-- The store with a quad that it does not have. -/
def append (s : QuadStore) (q : StoredQuad) : QuadStore :=
  let position := s.quads.size
  { s with
    quads := s.quads.push q
    outgoing := s.outgoing.add q.subject position
    incoming := s.incoming.add q.object position
    byPredicate := s.byPredicate.add q.predicate position }

/-- The numbers of the values of a quad, given in the order subject, predicate, object, label. -/
def internQuad (s : QuadStore) (q : Quad) : StoredQuad × QuadStore :=
  let (subject, s) := s.internNode q.subject
  let (predicate, s) := s.internNode q.predicate
  let (object, s) := s.internNode q.object
  match q.label with
  | none => ({ subject, predicate, object, label := none }, s)
  | some label =>
    let (label, s) := s.internNode label
    ({ subject, predicate, object, label := some label }, s)

/-- Adds a quad: whether it is new, and the store with it. -/
def add (s : QuadStore) (q : Quad) : Bool × QuadStore :=
  let (stored, s) := s.internQuad q
  if s.contains stored then (false, s) else (true, s.append stored)

/-- Adds quads in their order: how many are new, and the store with them. -/
def addAll (s : QuadStore) : List Quad → Nat × QuadStore
  | [] => (0, s)
  | q :: qs =>
    let (isNew, s) := s.add q
    let (count, s) := s.addAll qs
    (if isNew then count + 1 else count, s)

/-- The store with some quads. -/
def ofQuads (qs : List Quad) : QuadStore := (empty.addAll qs).2

/-! ### Looking at a store -/

/-- How many quads the store has. -/
def size (s : QuadStore) : Nat := s.quads.size

/-- The values of a quad, if all its nodes have one. -/
def resolve? (s : QuadStore) (q : StoredQuad) : Option Quad := do
  let subject ← s.interner.lookup? q.subject
  let predicate ← s.interner.lookup? q.predicate
  let object ← s.interner.lookup? q.object
  match q.label with
  | none => pure { subject, predicate, object }
  | some label => pure { subject, predicate, object, label := some (← s.interner.lookup? label) }

/-- The quads of the store in the order in which they were added. -/
def toList (s : QuadStore) : List Quad := s.quads.toList.filterMap s.resolve?

/-- How many quads use a predicate. -/
def predicateCount (s : QuadStore) (predicate : Value) : Nat :=
  match s.interner.idOf? predicate with
  | none => 0
  | some id => (s.byPredicate.positions id).size

/-- An answer about a node, or an error if it is none. -/
def atNode (s : QuadStore) (id : NodeId) (answer : List NodeId) : Except StoreError (List NodeId) :=
  if s.nodes.contains id then .ok answer else .error (.unknownNode id)

/-- The far ends of the edges at a node whose predicate is in a set. -/
def neighbors (s : QuadStore) (id : NodeId) (predicates : NodeSet) (direction : Direction) :
    Except StoreError (List NodeId) :=
  let edges := (s.edges id direction).filter fun q => predicates q.predicate
  s.atNode id (edges.map (·.far direction))

/-- The predicates of the edges at a node, each once. -/
def predicates (s : QuadStore) (id : NodeId) (direction : Direction) :
    Except StoreError (List NodeId) :=
  s.atNode id ((s.edges id direction).map (·.predicate)).eraseDups

/-- The value of a number. -/
def valueOf (s : QuadStore) (id : NodeId) : Except StoreError Value :=
  match s.interner.lookup? id with
  | some v => .ok v
  | none => .error (.unknownNode id)

/-- The store as a query sees it. -/
def graph (s : QuadStore) : Graph where
  nodes := s.nodes.toList
  nodeCount := s.nodes.size
  lookup := s.interner.idOf?
  valueOf := s.valueOf
  neighbors := s.neighbors
  predicates := s.predicates

end QuadStore

end QuadWalk
