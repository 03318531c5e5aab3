import QuadWalk.Proofs.Distinct
import QuadWalk.Proofs.Insertion

/-!
# A store gives back what was put in

The quads of a store are those that were added to it, each where it was added first
(`QuadStore.contents_run`). A store tells quads apart by the numbers of their values; this is as
good as telling them apart by their values, since no two values have one number and no value has
two.

Adding a quad gives out numbers before it is known whether the quad is new. If it is not, then its
values have their numbers already and are nodes already, so nothing changes at all: the store after
it is the store before it, and not only one that answers alike.
-/

namespace QuadWalk.QuadStore

open Interner

variable {s s' : QuadStore} {q : StoredQuad} {x : Quad}

/-! ### Adding what is there -/

/-- A node that is put in again changes nothing. -/
theorem insert_node_of_mem {nodes : Std.TreeSet NodeId} {id : NodeId} (h : id ∈ nodes) :
    nodes.insert id = nodes := by
  have hcontains : Std.DTreeMap.Internal.Impl.contains id nodes.inner.inner.inner = true := h
  simp only [Std.TreeSet.insert, Std.TreeMap.insertIfNew, Std.DTreeMap.insertIfNew,
    Std.DTreeMap.Internal.Impl.insertIfNew, hcontains, if_true]

/-- A value that is a node is given its number again, and nothing changes. -/
theorem internNode_of_mem {id : NodeId} {v : Value} (hv : s.interner.lookup? id = some v)
    (hid : id ∈ s.nodes) : s.internNode v = (id, s) := by
  simp only [internNode, QuadStore.intern, intern_of_lookup? hv, insert_node_of_mem hid]

theorem internQuad_of_resolves (h : Resolves s.interner q x) (hids : ∀ id ∈ q.ids, id ∈ s.nodes) :
    s.internQuad x = (q, s) := by
  obtain ⟨subject, predicate, object, label⟩ := q
  have hsubject := internNode_of_mem h.subject (hids _ (by simp [StoredQuad.ids]))
  have hpredicate := internNode_of_mem h.predicate (hids _ (by simp [StoredQuad.ids]))
  have hobject := internNode_of_mem h.object (hids _ (by simp [StoredQuad.ids]))
  have hl := h.label
  unfold internQuad
  simp only [hsubject, hpredicate, hobject]
  cases hx : x.label with
  | none =>
    cases label with
    | none => rfl
    | some id => simp [hx] at hl
  | some v =>
    cases label with
    | none => simp [hx] at hl
    | some id =>
      have hv : s.interner.lookup? id = some v := by simpa [hx] using hl
      simp only [internNode_of_mem hv (hids _ (by simp [StoredQuad.ids]))]

/-! ### The quads of a store, by their values -/

/-- The quads are those that the stored ones stand for, and none is left out. -/
theorem Indexed.map_resolve? (h : Indexed s) :
    s.quads.toList.map s.resolve? = s.toList.map some := by
  have hsome : ∀ q ∈ s.quads.toList, ∃ x, s.resolve? q = some x := by
    intro q hq
    obtain ⟨x, hx⟩ := h.resolved q hq
    exact ⟨x, resolve?_of_resolves hx⟩
  unfold toList
  generalize s.quads.toList = qs at hsome
  induction qs with
  | nil => rfl
  | cons q qs ih =>
    obtain ⟨hq, hqs⟩ := List.forall_mem_cons.1 hsome
    obtain ⟨x, hx⟩ := hq
    rw [List.map_cons, List.filterMap_cons_some hx, List.map_cons, ih hqs, hx]

theorem Indexed.mem_toList_iff (h : Indexed s) : x ∈ s.toList ↔ Holds s x := by
  rw [toList, List.mem_filterMap]
  constructor
  · rintro ⟨q, hq, hx⟩
    obtain ⟨y, hy⟩ := h.resolved q hq
    cases (resolve?_of_resolves hy).symm.trans hx
    exact ⟨q, hq, hy⟩
  · rintro ⟨q, hq, hx⟩
    exact ⟨q, hq, resolve?_of_resolves hx⟩

/-- Giving out numbers does not change the quads. -/
theorem Indexed.toList_numbers {ids : List NodeId} (h : Indexed s) (hn : Numbers s s' ids) :
    s'.toList = s.toList := by
  unfold toList
  rw [hn.quads]
  refine List.filterMap_congr fun q hq => ?_
  obtain ⟨x, hx⟩ := h.resolved q hq
  rw [resolve?_of_resolves hx, resolve?_of_resolves (hx.grows hn.interner)]

/-- **A quad that is there already is not added, and nothing changes.** -/
theorem Indexed.add_of_mem (h : Indexed s) (hx : x ∈ s.toList) : s.add x = (false, s) := by
  obtain ⟨q, hq, hqx⟩ := h.mem_toList_iff.1 hx
  have hids : ∀ id ∈ q.ids, id ∈ s.nodes := fun id hid => (h.nodes id).2 ⟨q, hq, hid⟩
  unfold QuadStore.add
  simp only [internQuad_of_resolves hqx hids]
  exact if_pos ((h.contains_iff q).2 hq)

/-- **A quad that is not there yet is added** after all others. -/
theorem Indexed.add_of_not_mem (h : Indexed s) (hx : x ∉ s.toList) :
    (s.add x).1 = true ∧ (s.add x).2.toList = s.toList ++ [x] := by
  obtain ⟨q, s', -, hn, hqx, ⟨hold, -⟩ | ⟨-, hadd⟩⟩ := add_cases s x
  · rw [hn.contains, h.contains_iff] at hold
    exact absurd (h.mem_toList_iff.2 ((h.holds_numbers_iff hn).1 ⟨q, hn.quads ▸ hold, hqx⟩)) hx
  · rw [hadd]
    have hnew : (s'.append q).resolve? q = some x := resolve?_of_resolves hqx
    have hthere : s'.quads.toList.filterMap (s'.append q).resolve? = s'.toList := rfl
    refine ⟨rfl, ?_⟩
    rw [toList, QuadStore.append, Array.toList_push, List.filterMap_append, ← QuadStore.append,
      hthere, h.toList_numbers hn, List.filterMap_cons_some hnew, List.filterMap_nil]

/-! ### Changes -/

/-- The quads of statements, if they can be loaded. -/
def loadable (format : RdfFormat) (statements : Statements) : List Quad :=
  (statements.quads format).toOption.getD []

/-- The quads that a change adds. -/
def Change.quads : Change → List Quad
  | .add q => [q]
  | .intern _ => []
  | .statements format found => loadable format found
  | .bytes format content => loadable format (Statements.read format content)
  | .text format content => loadable format (Statements.read format content.toUTF8.toList)
  | .file path content? =>
    match RdfFormat.ofPath? path, content? with
    | some format, some content => loadable format (Statements.read format content)
    | _, _ => []

/-- The quads that some changes add, one after the other. -/
def added (changes : List Change) : List Quad := changes.flatMap Change.quads

section Contents

variable {qs : List Quad} (h : Indexed s) (hs : s.toList = qs.eraseDups)

include h hs

/-- A quad is new to a store exactly if it is none of those that were added. -/
theorem add_fst_iff : (s.add x).1 = true ↔ x ∉ qs := by
  rw [← List.mem_eraseDups, ← hs]
  by_cases hx : x ∈ s.toList
  · simp [h.add_of_mem hx, hx]
  · simp [(h.add_of_not_mem hx).1, hx]

theorem toList_add (x : Quad) : (s.add x).2.toList = (qs ++ [x]).eraseDups := by
  rw [eraseDups_append_singleton, ← hs]
  by_cases hx : x ∈ qs
  · have hmem : x ∈ s.toList := hs ▸ List.mem_eraseDups.2 hx
    rw [if_pos hx, h.add_of_mem hmem]
  · have hmem : x ∉ s.toList := fun hmem => hx (List.mem_eraseDups.1 (hs ▸ hmem))
    rw [if_neg hx, (h.add_of_not_mem hmem).2]

theorem toList_addAll (xs : List Quad) : (s.addAll xs).2.toList = (qs ++ xs).eraseDups := by
  induction xs generalizing s qs with
  | nil =>
    rw [List.append_nil]
    exact hs
  | cons x xs ih =>
    rw [List.append_cons]
    exact ih (h.add x) (toList_add h hs x)

theorem toList_load (format : RdfFormat) (statements : Statements) :
    (s.loadStatements format statements).2.toList =
      (qs ++ loadable format statements).eraseDups := by
  unfold loadStatements loadable
  cases statements.quads format with
  | error e =>
    show s.toList = (qs ++ []).eraseDups
    rw [List.append_nil, hs]
  | ok xs => exact toList_addAll h hs xs

/-- What a change adds is put after what is there. -/
theorem toList_after (change : Change) :
    (s.after change).toList = (qs ++ change.quads).eraseDups := by
  cases change with
  | add x => exact toList_add h hs x
  | intern v =>
    show (s.intern v).2.toList = (qs ++ []).eraseDups
    rw [h.toList_numbers (numbers_intern s v), List.append_nil, hs]
  | statements format statements => exact toList_load h hs format statements
  | bytes format bytes => exact toList_load h hs format _
  | text format text => exact toList_load h hs format _
  | file path content? =>
    have hnothing : s.toList = (qs ++ []).eraseDups := by rw [List.append_nil, hs]
    show (s.loadFile path content?).2.toList = _
    simp only [loadFile, Change.quads]
    cases RdfFormat.ofPath? path with
    | none => exact hnothing
    | some format =>
      cases content? with
      | none => exact hnothing
      | some content => exact toList_load h hs format _

end Contents

theorem toList_run (changes : List Change) :
    (run changes).toList = (added changes).eraseDups := by
  induction changes using List.reverseRecOn with
  | nil => rfl
  | append_singleton changes change ih =>
    have hafter := toList_after (indexed_run changes) ih change
    rw [run, List.foldl_append, added, List.flatMap_append, List.flatMap_singleton]
    exact hafter

/-- **A store gives back what was put in.** After any changes (quads that are added one by one,
values that are only given numbers, files that are loaded or not), the quads of the store are those
that were added, each once and where it was added first, a quad with a label being another one than
that without it; each stored quad is one of them. Adding a quad says whether no such quad was added
before; and if it says that one was, then whatever is done afterwards has the same result as if the
quad had not been added again. -/
theorem contents_run (changes : List Change) :
    (run changes).toList = (added changes).eraseDups ∧
    (run changes).quads.toList.map (run changes).resolve? = (run changes).toList.map some ∧
    (run changes).size = (run changes).toList.length ∧
    ∀ x : Quad, (((run changes).add x).1 = true ↔ x ∉ added changes) ∧
      (((run changes).add x).1 = false →
        ∀ later, run (changes ++ .add x :: later) = run (changes ++ later)) := by
  have h := indexed_run changes
  refine ⟨toList_run changes, h.map_resolve?, h.scanned.length_toList.symm, fun x => ?_⟩
  have hnew := add_fst_iff (x := x) h (toList_run changes)
  refine ⟨hnew, fun hold later => ?_⟩
  have hmem : x ∈ (run changes).toList := by
    rw [toList_run, List.mem_eraseDups]
    exact Decidable.byContradiction fun hx => by simp [hnew.2 hx] at hold
  have hsame : (run changes).after (.add x) = run changes := by
    rw [after, h.add_of_mem hmem]
  rw [run, List.foldl_append, List.foldl_cons, ← run, hsame, run, run, List.foldl_append]

/-- Alice likes Bob, first without a label, then with one. Bob had a number before. -/
def likedTwice : List Change :=
  [.intern (.iri "bob"), .add (.ofIris "alice" "likes" "bob" ""),
    .add (.ofIris "alice" "likes" "bob" "work")]

/-- Of the two quads, both are there. Adding the second one again changes nothing. -/
theorem contents_run_likedTwice :
    (run likedTwice).toList =
      [.ofIris "alice" "likes" "bob" "", .ofIris "alice" "likes" "bob" "work"] ∧
    ((run likedTwice).add (.ofIris "alice" "likes" "bob" "work")).1 = false ∧
    ∀ later, run (likedTwice ++ .add (.ofIris "alice" "likes" "bob" "work") :: later) =
      run (likedTwice ++ later) := by
  obtain ⟨hcontents, -, -, hadd⟩ := contents_run likedTwice
  have hquads : (run likedTwice).toList =
      [.ofIris "alice" "likes" "bob" "", .ofIris "alice" "likes" "bob" "work"] := by
    rw [hcontents]
    decide
  have hold : ((run likedTwice).add (.ofIris "alice" "likes" "bob" "work")).1 = false := by
    decide +kernel
  exact ⟨hquads, hold, (hadd _).2 hold⟩

end QuadWalk.QuadStore
