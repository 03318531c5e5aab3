import QuadWalk.Proofs.Interning
import QuadWalk.Store.Load

/-!
# A store answers as a scan of its quads would

A store keeps its quads in one array and finds them again through indexes, and its nodes in a set of
their own. `QuadStore.Indexed` is the invariant that keeps these in step with the quads. Whatever is
done to a store keeps it, so that after any changes a store answers as if it went through all of its
quads (`QuadStore.scanned_run`).

## The invariant

An index covers the quads by some key if the positions under a node are those of the quads with that
key, in the order of the quads. The nodes are the numbers that occur in some quad. While a quad is
being added, its numbers are nodes already although the quad is not yet there; so what giving out
numbers does is told by a relation between stores, `QuadStore.Numbers`, and the invariant is only
asked for before and after a whole change.
-/

namespace QuadWalk

/-- The nodes that occur in a quad. -/
def StoredQuad.ids (q : StoredQuad) : List NodeId :=
  q.subject :: q.predicate :: q.object :: q.label.toList

/-! ### Indexes -/

namespace QuadIndex

/-- Under each node, the index has the positions of the quads with that key, in their order. -/
def Covers (index : QuadIndex) (key : StoredQuad → NodeId) (quads : Array StoredQuad) : Prop :=
  ∀ id, (index.positions id).toList.map (fun position => quads[position]?) =
    (quads.toList.filter fun q => key q = id).map some

variable {index : QuadIndex} {key : StoredQuad → NodeId} {quads : Array StoredQuad}

theorem positions_add (index : QuadIndex) (id id' : NodeId) (position : Nat) :
    (index.add id position).positions id' =
      if id = id' then (index.positions id').push position else index.positions id' := by
  unfold add positions
  rw [Std.TreeMap.getD_insert]
  by_cases h : id = id'
  · subst h
    simp
  · simp [h]

theorem covers_empty (key : StoredQuad → NodeId) : Covers ∅ key #[] := by
  intro id
  simp [positions]

/-- A position under a node is one of the array. -/
theorem Covers.lt_size (h : Covers index key quads) {id : NodeId} {position : Nat}
    (hp : position ∈ (index.positions id).toList) : position < quads.size := by
  have hmem : quads[position]? ∈ (quads.toList.filter fun q => key q = id).map some := by
    rw [← h id]
    exact List.mem_map.2 ⟨position, hp, rfl⟩
  obtain ⟨q, -, hq⟩ := List.mem_map.1 hmem
  exact (Array.getElem?_eq_some_iff.1 hq.symm).1

/-- An index that is told of each new quad goes on covering the quads. -/
theorem Covers.add (h : Covers index key quads) (q : StoredQuad) :
    Covers (index.add (key q) quads.size) key (quads.push q) := by
  intro id
  have old : (index.positions id).toList.map (fun position => (quads.push q)[position]?) =
      (quads.toList.filter fun q => key q = id).map some := by
    rw [← h id]
    refine List.map_congr_left fun position hp => ?_
    rw [Array.getElem?_push_lt (h.lt_size hp), Array.getElem?_eq_getElem (h.lt_size hp)]
  rw [positions_add, Array.toList_push, List.filter_append, List.map_append]
  by_cases hid : key q = id
  · rw [if_pos hid, Array.toList_push, List.map_append, old]
    simp [hid]
  · rw [if_neg hid, old]
    simp [hid]

theorem Covers.filterMap_positions (h : Covers index key quads) (id : NodeId) :
    ((index.positions id).toList.filterMap fun position => quads[position]?) =
      quads.toList.filter fun q => key q = id := by
  have hsome := congrArg (List.filterMap fun found => found) (h id)
  rw [List.filterMap_map, List.filterMap_map] at hsome
  simpa [Function.comp_def] using hsome

theorem Covers.size_positions (h : Covers index key quads) (id : NodeId) :
    (index.positions id).size = quads.toList.countP fun q => key q = id := by
  have hlength := congrArg List.length (h id)
  rwa [List.length_map, List.length_map, Array.length_toList,
    ← List.countP_eq_length_filter] at hlength

end QuadIndex

namespace QuadStore

open QuadIndex Interner

variable {s s' s'' : QuadStore} {ids ids' : List NodeId}

/-! ### Giving out numbers -/

/-- From one store to another, values were given numbers, some numbers became nodes, and nothing
else was changed. -/
structure Numbers (s s' : QuadStore) (ids : List NodeId) : Prop where
  quads : s'.quads = s.quads
  outgoing : s'.outgoing = s.outgoing
  incoming : s'.incoming = s.incoming
  byPredicate : s'.byPredicate = s.byPredicate
  interner : Grows s.interner s'.interner
  nodes : ∀ id, id ∈ s'.nodes ↔ id ∈ s.nodes ∨ id ∈ ids

theorem Numbers.trans (h : Numbers s s' ids) (h' : Numbers s' s'' ids') :
    Numbers s s'' (ids ++ ids') where
  quads := h'.quads.trans h.quads
  outgoing := h'.outgoing.trans h.outgoing
  incoming := h'.incoming.trans h.incoming
  byPredicate := h'.byPredicate.trans h.byPredicate
  interner := Grows.trans h.interner h'.interner
  nodes := by
    intro id
    rw [h'.nodes, h.nodes, List.mem_append, or_assoc]

/-- Giving out numbers does not change which quads are there. -/
theorem Numbers.contains (h : Numbers s s' ids) (q : StoredQuad) : s'.contains q = s.contains q := by
  simp only [QuadStore.contains, edges, index, h.outgoing, h.quads]

theorem numbers_intern (s : QuadStore) (v : Value) : Numbers s (s.intern v).2 [] where
  quads := rfl
  outgoing := rfl
  incoming := rfl
  byPredicate := rfl
  interner := grows_intern s.interner v
  nodes := by simp [QuadStore.intern]

theorem numbers_internNode (s : QuadStore) (v : Value) :
    Numbers s (s.internNode v).2 [(s.internNode v).1] where
  quads := rfl
  outgoing := rfl
  incoming := rfl
  byPredicate := rfl
  interner := grows_intern s.interner v
  nodes := by
    intro id
    unfold internNode
    rw [Std.TreeSet.mem_insert, Std.LawfulEqCmp.compare_eq_iff_eq, List.mem_singleton, or_comm,
      eq_comm]
    rfl

theorem lookup?_internNode (s : QuadStore) (v : Value) :
    (s.internNode v).2.interner.lookup? (s.internNode v).1 = some v :=
  lookup?_intern s.interner v

/-- A numbering has the values of a quad at its nodes. -/
structure Resolves (t : Interner) (q : StoredQuad) (x : Quad) : Prop where
  subject : t.lookup? q.subject = some x.subject
  predicate : t.lookup? q.predicate = some x.predicate
  object : t.lookup? q.object = some x.object
  label : q.label.map t.lookup? = x.label.map some

theorem Resolves.grows {t t' : Interner} {q : StoredQuad} {x : Quad} (h : Resolves t q x)
    (ht : Grows t t') : Resolves t' q x where
  subject := ht h.subject
  predicate := ht h.predicate
  object := ht h.object
  label := by
    have hl := h.label
    cases hq : q.label with
    | none => simpa [hq] using hl
    | some id =>
      cases hx : x.label with
      | none => simp [hq, hx] at hl
      | some v =>
        rw [hq, hx] at hl
        simp only [Option.map_some, Option.some.injEq] at hl ⊢
        exact ht hl

theorem resolve?_of_resolves {q : StoredQuad} {x : Quad} (h : Resolves s.interner q x) :
    s.resolve? q = some x := by
  obtain ⟨subject, predicate, object, label⟩ := q
  obtain ⟨hs, hp, ho, hl⟩ := h
  cases label <;> cases hx : x.label <;> simp_all [resolve?] <;> rw [← hx]

theorem internQuad_spec (s : QuadStore) (q : Quad) :
    Numbers s (s.internQuad q).2 (s.internQuad q).1.ids ∧
      Resolves (s.internQuad q).2.interner (s.internQuad q).1 q := by
  have h₁ := numbers_internNode s q.subject
  have v₁ := lookup?_internNode s q.subject
  rcases hs₁ : s.internNode q.subject with ⟨subject, s₁⟩
  have h₂ := numbers_internNode s₁ q.predicate
  have v₂ := lookup?_internNode s₁ q.predicate
  rcases hs₂ : s₁.internNode q.predicate with ⟨predicate, s₂⟩
  have h₃ := numbers_internNode s₂ q.object
  have v₃ := lookup?_internNode s₂ q.object
  rcases hs₃ : s₂.internNode q.object with ⟨object, s₃⟩
  simp only [hs₁, hs₂, hs₃] at h₁ h₂ h₃ v₁ v₂ v₃
  have h₁₃ := h₁.trans (h₂.trans h₃)
  unfold internQuad
  simp only [hs₁, hs₂, hs₃]
  cases hl : q.label with
  | none =>
    refine ⟨h₁₃, ?_, ?_, v₃, ?_⟩
    · exact h₃.interner (h₂.interner v₁)
    · exact h₃.interner v₂
    · simp [hl]
  | some label =>
    have h₄ := numbers_internNode s₃ label
    have v₄ := lookup?_internNode s₃ label
    rcases hs₄ : s₃.internNode label with ⟨id, s₄⟩
    simp only [hs₄] at h₄ v₄ ⊢
    refine ⟨h₁₃.trans h₄, ?_, ?_, ?_, ?_⟩
    · exact h₄.interner (h₃.interner (h₂.interner v₁))
    · exact h₄.interner (h₃.interner v₂)
    · exact h₄.interner v₃
    · simp [hl, v₄]

/-- Adding a quad first gives out the numbers of its values. Then either it is there, or it is put
in. -/
theorem add_cases (s : QuadStore) (x : Quad) :
    ∃ q s', s.internQuad x = (q, s') ∧ Numbers s s' q.ids ∧ Resolves s'.interner q x ∧
      (s'.contains q = true ∧ s.add x = (false, s') ∨
        s'.contains q = false ∧ s.add x = (true, s'.append q)) := by
  obtain ⟨hn, hx⟩ := internQuad_spec s x
  rcases hi : s.internQuad x with ⟨q, s'⟩
  simp only [hi] at hn hx
  refine ⟨q, s', rfl, hn, hx, ?_⟩
  unfold QuadStore.add
  simp only [hi]
  cases s'.contains q with
  | true => exact .inl ⟨rfl, rfl⟩
  | false => exact .inr ⟨rfl, rfl⟩

/-! ### The invariant -/

/-- The indexes and the nodes of a store are those of its quads; each quad is there once, and its
nodes have values. -/
structure Indexed (s : QuadStore) : Prop where
  outgoing : Covers s.outgoing (·.subject) s.quads
  incoming : Covers s.incoming (·.object) s.quads
  byPredicate : Covers s.byPredicate (·.predicate) s.quads
  nodes : ∀ id, id ∈ s.nodes ↔ ∃ q ∈ s.quads.toList, id ∈ q.ids
  nodup : s.quads.toList.Nodup
  resolved : ∀ q ∈ s.quads.toList, ∃ x, Resolves s.interner q x

theorem indexed_empty : Indexed empty where
  outgoing := covers_empty _
  incoming := covers_empty _
  byPredicate := covers_empty _
  nodes := by simp [empty]
  nodup := by simp [empty]
  resolved := by simp [empty]

namespace Indexed

/-- The quads that an index leads to from a node are those that a scan finds. -/
theorem edges_eq (h : Indexed s) (id : NodeId) (d : Direction) :
    s.edges id d = s.quads.toList.filter fun q => q.near d = id := by
  cases d with
  | forward => exact h.outgoing.filterMap_positions id
  | backward => exact h.incoming.filterMap_positions id

theorem contains_iff (h : Indexed s) (q : StoredQuad) :
    s.contains q = true ↔ q ∈ s.quads.toList := by
  rw [QuadStore.contains, h.edges_eq, List.contains_iff_mem, List.mem_filter]
  simp [StoredQuad.near]

/-- Numbers may be given out as long as no number becomes a node that occurs in no quad. -/
theorem numbers (h : Indexed s) (hn : Numbers s s' ids)
    (hids : ∀ id ∈ ids, ∃ q ∈ s.quads.toList, id ∈ q.ids) : Indexed s' where
  outgoing := by rw [hn.outgoing, hn.quads]; exact h.outgoing
  incoming := by rw [hn.incoming, hn.quads]; exact h.incoming
  byPredicate := by rw [hn.byPredicate, hn.quads]; exact h.byPredicate
  nodes := by
    intro id
    rw [hn.nodes, hn.quads, h.nodes]
    exact ⟨fun hid => hid.elim (fun hid => hid) (hids id), .inl⟩
  nodup := by rw [hn.quads]; exact h.nodup
  resolved := by
    rw [hn.quads]
    intro q hq
    obtain ⟨x, hx⟩ := h.resolved q hq
    exact ⟨x, hx.grows hn.interner⟩

/-- A new quad is put in after its nodes were given out. -/
theorem append (h : Indexed s) {q : StoredQuad} {x : Quad} (hn : Numbers s s' q.ids)
    (hq : q ∉ s.quads.toList) (hx : Resolves s'.interner q x) : Indexed (s'.append q) where
  outgoing := by
    unfold QuadStore.append
    rw [hn.outgoing, hn.quads]
    exact h.outgoing.add q
  incoming := by
    unfold QuadStore.append
    rw [hn.incoming, hn.quads]
    exact h.incoming.add q
  byPredicate := by
    unfold QuadStore.append
    rw [hn.byPredicate, hn.quads]
    exact h.byPredicate.add q
  nodes := by
    intro id
    simp only [QuadStore.append, hn.nodes, hn.quads, h.nodes, Array.toList_push, List.mem_append,
      List.mem_singleton, or_and_right, exists_or, exists_eq_left]
  nodup := by
    simp only [QuadStore.append, hn.quads, Array.toList_push, List.nodup_append]
    refine ⟨h.nodup, by simp, ?_⟩
    rintro a ha b hb rfl
    exact hq (List.mem_singleton.1 hb ▸ ha)
  resolved := by
    simp only [QuadStore.append, hn.quads, Array.toList_push, List.mem_append, List.mem_singleton]
    rintro q' (hq' | rfl)
    · obtain ⟨x', hx'⟩ := h.resolved q' hq'
      exact ⟨x', hx'.grows hn.interner⟩
    · exact ⟨x, hx⟩

theorem intern (h : Indexed s) (v : Value) : Indexed (s.intern v).2 :=
  h.numbers (numbers_intern s v) (by simp)

/-- Adding a quad keeps the invariant: one that is not new has no new nodes. -/
theorem add (h : Indexed s) (x : Quad) : Indexed (s.add x).2 := by
  obtain ⟨q, s', -, hn, hx, ⟨hold, hadd⟩ | ⟨hnew, hadd⟩⟩ := add_cases s x
  · rw [hn.contains, h.contains_iff] at hold
    rw [hadd]
    exact h.numbers hn fun id hid => ⟨q, hold, hid⟩
  · rw [hn.contains, Bool.eq_false_iff, ne_eq, h.contains_iff] at hnew
    rw [hadd]
    exact h.append hn hnew hx

end Indexed

/-! ### Changes -/

/-- What may be done to a store. Of a file, either its statements are given, however they were read,
or its bytes, its text or its name. -/
inductive Change where
  | add (q : Quad)
  | intern (v : Value)
  | statements (format : RdfFormat) (statements : Statements)
  | bytes (format : RdfFormat) (bytes : List UInt8)
  | text (format : RdfFormat) (text : String)
  | file (path : String) (content : Option (List UInt8))

/-- The store after a change. -/
def after (s : QuadStore) : Change → QuadStore
  | .add q => (s.add q).2
  | .intern v => (s.intern v).2
  | .statements format statements => (s.loadStatements format statements).2
  | .bytes format bytes => (s.loadBytes format bytes).2
  | .text format text => (s.loadText format text).2
  | .file path content => (s.loadFile path content).2

/-- The store that some changes make of the empty one. -/
def run (changes : List Change) : QuadStore := changes.foldl after empty

section Induction

variable {P : QuadStore → Prop}

theorem addAll_induction (hadd : ∀ s q, P s → P (s.add q).2) (hs : P s) (qs : List Quad) :
    P (s.addAll qs).2 := by
  induction qs generalizing s with
  | nil => exact hs
  | cons q qs ih => exact ih (hadd s q hs)

/-- Loading statements adds all of their quads or nothing. -/
theorem load_induction (hadd : ∀ s q, P s → P (s.add q).2) (hs : P s) (format : RdfFormat)
    (statements : Statements) : P (s.loadStatements format statements).2 := by
  unfold loadStatements
  cases statements.quads format with
  | error e => exact hs
  | ok qs => exact addAll_induction hadd hs qs

/-- **A change keeps what adding a quad keeps**, and giving out a number by itself. -/
theorem after_induction (hadd : ∀ s q, P s → P (s.add q).2) {change : Change}
    (hintern : ∀ v, change = .intern v → ∀ s, P s → P (s.intern v).2) (hs : P s) :
    P (s.after change) := by
  cases change with
  | add q => exact hadd s q hs
  | intern v => exact hintern v rfl s hs
  | statements format statements => exact load_induction hadd hs format statements
  | bytes format bytes => exact load_induction hadd hs format _
  | text format text => exact load_induction hadd hs format _
  | file path content =>
    show P (s.loadFile path content).2
    unfold loadFile
    split
    · exact hs
    · exact hs
    · exact load_induction hadd hs _ _

/-- **What the empty store has and every change keeps, every store has that changes make.** -/
theorem run_induction {changes : List Change} (hempty : P empty)
    (hadd : ∀ s q, P s → P (s.add q).2)
    (hintern : ∀ v, .intern v ∈ changes → ∀ s, P s → P (s.intern v).2) : P (run changes) := by
  refine List.foldlRecOn changes after hempty fun s hs change hchange => ?_
  exact after_induction hadd (fun v hv => hintern v (hv ▸ hchange)) hs

end Induction

theorem indexed_run (changes : List Change) : Indexed (run changes) :=
  run_induction indexed_empty (fun _ q h => h.add q) fun v _ _ h => h.intern v

/-! ### Scanning -/

/-- Whether a node occurs in some quad. -/
def Mentions (s : QuadStore) (id : NodeId) : Prop := ∃ q ∈ s.quads.toList, id ∈ q.ids

instance (s : QuadStore) (id : NodeId) : Decidable (s.Mentions id) :=
  inferInstanceAs (Decidable (∃ q ∈ s.quads.toList, id ∈ q.ids))

/-- The quads at which walks from a node in a direction begin, found among all quads. -/
def incident (s : QuadStore) (id : NodeId) (d : Direction) : List StoredQuad :=
  s.quads.toList.filter fun q => q.near d = id

/-- A store answers as a scan of its quads would. -/
structure Scanned (s : QuadStore) : Prop where
  quads_nodup : s.quads.toList.Nodup
  neighbors : ∀ (id : NodeId) (predicates : NodeSet) (d : Direction),
    s.graph.neighbors id predicates d =
      if s.Mentions id then
        .ok (((s.incident id d).filter fun q => predicates q.predicate).map (·.far d))
      else .error (.unknownNode id)
  predicates : ∀ (id : NodeId) (d : Direction),
    s.graph.predicates id d =
      if s.Mentions id then .ok ((s.incident id d).map (·.predicate)).eraseDups
      else .error (.unknownNode id)
  length_toList : s.toList.length = s.quads.size
  predicateCount : ∀ v : Value, s.predicateCount v = s.toList.countP fun q => q.predicate = v
  nodes_ascend : s.graph.nodes.Pairwise (· < ·)
  mem_nodes : ∀ id : NodeId, id ∈ s.graph.nodes ↔ s.Mentions id

theorem atNode_eq (h : Indexed s) (id : NodeId) (answer : List NodeId) :
    s.atNode id answer = if s.Mentions id then .ok answer else .error (.unknownNode id) := by
  have hnode : s.nodes.contains id = true ↔ s.Mentions id := by
    rw [Std.TreeSet.contains_iff_mem]
    exact h.nodes id
  unfold atNode
  by_cases hid : s.Mentions id
  · rw [if_pos hid, if_pos (hnode.2 hid)]
  · rw [if_neg hid, if_neg fun hc => hid (hnode.1 hc)]

/-- The quads that the index has under the number of a predicate are those whose predicate has its
value. -/
theorem Indexed.predicateCount_eq (h : Indexed s) (v : Value) :
    s.predicateCount v = s.toList.countP fun q => q.predicate = v := by
  have hcount : (s.toList.countP fun q => q.predicate = v) =
      s.quads.toList.countP fun q => s.interner.lookup? q.predicate = some v := by
    rw [toList, List.countP_filterMap]
    refine List.countP_congr fun q hq => ?_
    obtain ⟨x, hx⟩ := h.resolved q hq
    simp [resolve?_of_resolves hx, hx.predicate]
  rw [hcount, QuadStore.predicateCount]
  cases hv : s.interner.idOf? v with
  | none =>
    refine (List.countP_eq_zero.2 fun q hq => ?_).symm
    rw [decide_eq_true_eq, ← idOf?_eq_some_iff, hv]
    simp
  | some id =>
    simp only [h.byPredicate.size_positions id]
    refine List.countP_congr fun q hq => ?_
    rw [decide_eq_true_eq, decide_eq_true_eq, ← idOf?_eq_some_iff, hv, Option.some.injEq, eq_comm]

/-- **An indexed store answers as a scan of its quads would.** -/
theorem Indexed.scanned (h : Indexed s) : Scanned s where
  quads_nodup := h.nodup
  neighbors := by
    intro id predicates d
    simp only [graph, QuadStore.neighbors, atNode_eq h, h.edges_eq, incident]
  predicates := by
    intro id d
    simp only [graph, QuadStore.predicates, atNode_eq h, h.edges_eq, incident]
  length_toList := by
    rw [toList, List.length_filterMap_eq_countP, ← Array.length_toList, List.countP_eq_length]
    intro q hq
    obtain ⟨x, hx⟩ := h.resolved q hq
    simp [resolve?_of_resolves hx]
  predicateCount := h.predicateCount_eq
  nodes_ascend := Std.TreeSet.ordered_toList.imp Nat.compare_eq_lt.1
  mem_nodes := by
    intro id
    simp only [graph, Std.TreeSet.mem_toList]
    exact h.nodes id

/-- **Whatever is done to a store, it answers as a scan of its quads would**: after any sequence of
changes, loads that fail among them, each quad is stored once; walks from a node give the far ends
of its edges, and their predicates, in the order of the quads; predicates are counted right; the
nodes are those that occur in some quad, in ascending order; and only at these are there answers. -/
theorem scanned_run (changes : List Change) : Scanned (run changes) :=
  (indexed_run changes).scanned

end QuadStore

end QuadWalk
