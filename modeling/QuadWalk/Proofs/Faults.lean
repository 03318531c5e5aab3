import QuadWalk.Proofs.Reports
import QuadWalk.Proofs.Scan

/-!
# Stores that have no faults

A store answers with a fault when it is asked about a number that is no node. Values may be given
numbers without becoming nodes, and a query that begins at such a value fails. In a store that is
only changed by adding quads, one at a time or from files, this cannot happen: there every value
that has a number is a node (`QuadStore.Complete`), every edge leads from nodes to nodes, and so
whatever a query reaches is a node.

What is left of the errors of a query are those of its comparisons, `QuadStore.mismatch_of_shows`.
-/

namespace QuadWalk

theorem StoredQuad.far_mem_ids (q : StoredQuad) (d : Direction) : q.far d ∈ q.ids := by
  cases d <;> simp [far, ids]

namespace QuadStore

variable {s : QuadStore}

/-! ### Values with a number are nodes -/

/-- Every value that has a number is a node, or had the number in an earlier numbering. -/
def SettledSince (t : Interner) (s : QuadStore) : Prop :=
  ∀ id v, s.interner.lookup? id = some v → id ∈ s.nodes ∨ t.lookup? id = some v

namespace SettledSince

variable {t : Interner}

theorem refl (s : QuadStore) : SettledSince s.interner s := fun _ _ => .inr

theorem internNode (h : SettledSince t s) (v : Value) : SettledSince t (s.internNode v).2 := by
  intro id w hw
  have hnodes := (numbers_internNode s v).nodes id
  rcases Interner.lookup?_of_intern hw with hw | hid
  · exact (h id w hw).imp_left fun hid => hnodes.2 (.inl hid)
  · exact .inl (hnodes.2 (.inr (List.mem_singleton.2 hid)))

theorem internQuad (h : SettledSince t s) (q : Quad) : SettledSince t (s.internQuad q).2 := by
  have hobject := ((h.internNode q.subject).internNode q.predicate).internNode q.object
  unfold QuadStore.internQuad
  cases q.label with
  | none => exact hobject
  | some label => exact hobject.internNode label

/-- The values of a quad that is added are nodes. -/
theorem add (h : SettledSince t s) (x : Quad) : SettledSince t (s.add x).2 := by
  have hquad := h.internQuad x
  obtain ⟨q, s', hi, -, -, ⟨-, hadd⟩ | ⟨-, hadd⟩⟩ := add_cases s x
  all_goals
    rw [hi] at hquad
    rw [hadd]
    exact hquad

end SettledSince

/-- Every value that has a number is a node. -/
def Complete (s : QuadStore) : Prop := ∀ id v, s.interner.lookup? id = some v → id ∈ s.nodes

theorem complete_iff : Complete s ↔ SettledSince {} s := by
  simp [Complete, SettledSince, Interner.lookup?, Interner.Tables.lookup?_empty]

namespace Complete

theorem empty : Complete .empty := complete_iff.2 (.refl .empty)

theorem add (h : Complete s) (q : Quad) : Complete (s.add q).2 :=
  complete_iff.2 ((complete_iff.1 h).add q)

end Complete

theorem complete_run {changes : List Change} (h : ∀ v, .intern v ∉ changes) :
    Complete (run changes) :=
  run_induction .empty (fun _ q hs => hs.add q) fun v hv => absurd hv (h v)

/-! ### Answers about nodes -/

/-- A node has a value. -/
theorem Indexed.exists_lookup? (h : Indexed s) {id : NodeId} (hid : id ∈ s.nodes) :
    ∃ v, s.interner.lookup? id = some v := by
  obtain ⟨q, hq, hid⟩ := (h.nodes id).1 hid
  obtain ⟨x, hx⟩ := h.resolved q hq
  simp only [StoredQuad.ids, List.mem_cons, Option.mem_toList] at hid
  rcases hid with rfl | rfl | rfl | hlabel
  · exact ⟨_, hx.subject⟩
  · exact ⟨_, hx.predicate⟩
  · exact ⟨_, hx.object⟩
  · have hl := hx.label
    rw [hlabel] at hl
    cases hv : x.label with
    | none => simp [hv] at hl
    | some v => exact ⟨v, by simpa [hv] using hl⟩

/-- A store serves its nodes without faults, but for values that are found and are no nodes. -/
theorem Indexed.serves_withoutLookup (h : Indexed s) :
    s.graph.withoutLookup.Serves (· ∈ s.nodes) fun _ => False where
  nodes := by
    intro id hid
    exact Std.TreeSet.mem_toList.1 hid
  lookup := nofun
  valueOf := by
    intro id hid
    obtain ⟨v, hv⟩ := h.exists_lookup? hid
    simp only [Graph.withoutLookup, graph, valueOf, hv]
    trivial
  neighbors := by
    intro id predicates d hid
    have hmentions : s.Mentions id := (h.nodes id).1 hid
    rw [Graph.withoutLookup, h.scanned.neighbors, if_pos hmentions]
    intro i hi
    obtain ⟨q, hq, rfl⟩ := List.mem_map.1 hi
    have hmem := (List.mem_filter.1 (List.mem_filter.1 hq).1).1
    exact (h.nodes _).2 ⟨q, hmem, q.far_mem_ids d⟩
  predicates := by
    intro id d hid
    have hmentions : s.Mentions id := (h.nodes id).1 hid
    rw [Graph.withoutLookup, h.scanned.predicates, if_pos hmentions]
    intro i hi
    obtain ⟨q, hq, rfl⟩ := List.mem_map.1 (List.mem_eraseDups.1 hi)
    exact (h.nodes _).2 ⟨q, (List.mem_filter.1 hq).1, by simp [StoredQuad.ids]⟩

/-- **A store in which every numbered value is a node serves its nodes without faults.** -/
theorem Indexed.serves (h : Indexed s) (hs : Complete s) :
    s.graph.Serves (· ∈ s.nodes) fun _ => False where
  nodes := h.serves_withoutLookup.nodes
  lookup := by
    intro v id hv
    exact hs id v (Interner.idOf?_eq_some_iff.1 hv)
  valueOf := h.serves_withoutLookup.valueOf
  neighbors := h.serves_withoutLookup.neighbors
  predicates := h.serves_withoutLookup.predicates

/-! ### Queries on such stores -/

/-- **The errors of a query are those of its comparisons.** On a store that is made by adding quads
and loading files, successfully or not, no error that is seen of a prepared query is a fault of the
store; each one says that one of its comparisons met a blank node or a not-a-number at a row that it
was to compare. So a query without comparisons has no errors. -/
theorem mismatch_of_shows {changes : List Change} (hchanges : ∀ v, .intern v ∉ changes) {s : Step}
    {settings : Settings} {q : PreparedQuery} (h : s.prepare settings = .ok q) :
    (∀ e, q.Shows (run changes).graph e →
      (∀ fault, e ≠ .storeFault fault) ∧
      s.Mismatch settings.patternSizeLimit (run changes).graph
        (Items.ofRows ((run changes).graph.nodes.map .atNode)) e) ∧
    (s.comparisons = [] → ∀ e, ¬ q.Shows (run changes).graph e) := by
  have hserves := (indexed_run changes).serves (complete_run hchanges)
  have hmismatch (e : QueryError) (he : q.Shows (run changes).graph e) :
      s.Mismatch settings.patternSizeLimit (run changes).graph
        (Items.ofRows ((run changes).graph.nodes.map .atNode)) e := by
    rcases Step.cause_of_shows hserves h he with ⟨_, hfalse, _⟩ | he
    · exact hfalse.elim
    · exact he
  refine ⟨fun e he => ⟨?_, hmismatch e he⟩, fun hnone e he => ?_⟩
  · rintro fault rfl
    obtain ⟨_, _, _, _, _, _, _, _, _, _, heq⟩ := hmismatch _ he
    exact QueryError.noConfusion heq
  · exact Step.not_mismatch hnone (hmismatch e he)

/-- The error that an item is, if it is no row. -/
def itemError? : Item → Option QueryError
  | .ok _ => none
  | .error e => some e

/-- A quad about a blank node is added, and a file is not loaded. -/
def someoneOfSeven : List Change :=
  [.add { subject := .blank "someone", predicate := .iri "age", object := .int 7 },
    .file "people.csv" none]

/-- The nodes that are less than eight. -/
def belowEight : Step := .compare .lessThan (.vertex []) (.int 8)

theorem mismatch_of_shows_belowEight :
    (∀ v, .intern v ∉ someoneOfSeven) ∧
    ∃ q, belowEight.prepare {} = .ok q ∧
      q.Shows (run someoneOfSeven).graph (.typeMismatch ⟨.lessThan, false, .blank "someone"⟩) ∧
      (∀ e, q.Shows (run someoneOfSeven).graph e →
        (∀ fault, e ≠ .storeFault fault) ∧
        belowEight.Mismatch 0x100000 (run someoneOfSeven).graph
          (Items.ofRows ((run someoneOfSeven).graph.nodes.map .atNode)) e) ∧
      (belowEight.comparisons = [] → ∀ e, ¬ q.Shows (run someoneOfSeven).graph e) := by
  have hchanges : ∀ v, .intern v ∉ someoneOfSeven := by simp [someoneOfSeven]
  have hprepare : (belowEight.prepare {}).isOk = true := by decide +kernel
  obtain ⟨q, hq⟩ := exists_eq_ok_of_isOk hprepare
  have hfirst : (belowEight.meaning 0x100000 (run someoneOfSeven).graph
      (Items.ofRows ((run someoneOfSeven).graph.nodes.map .atNode))).head?.bind itemError? =
        some (.typeMismatch ⟨.lessThan, false, .blank "someone"⟩) := by
    decide +kernel
  obtain ⟨item, hhead, hitem⟩ := Option.bind_eq_some_iff.1 hfirst
  have hmem := List.mem_of_head? ((LazyList.head?_toList _).trans hhead)
  cases item with
  | ok r => cases hitem
  | error e =>
    cases hitem
    rw [← Step.items_of_prepare hq] at hmem
    exact ⟨hchanges, q, hq, .item hmem, mismatch_of_shows hchanges hq⟩

end QuadStore

end QuadWalk
