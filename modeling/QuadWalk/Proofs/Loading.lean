import QuadWalk.Proofs.Contents
import QuadWalk.Proofs.Statements

/-!
# Loading is all or nothing

A file is loaded whole or not at all (`QuadStore.loadsWhole`). What its statements say is known
before the first quad is added: the file is refused (`Statements.Refused`), and then the store
remains as it was; or it says quads (`Statements.Say`), and then the store is the one that adding
them one by one makes of it. The number that is reported is that by which the store has grown,
whether a quad is missing from the sum because the file says it twice or because the store had it.

This is proved of every store and not only of those that changes make of the empty one, and of every
way to read statements from bytes. Loading again finds all quads of the file: what a store finds of
a quad (`QuadStore.Finds`) it finds whatever else is added (`QuadStore.Keeps`), and adding a quad
that it finds changes nothing, be it the numbers of the values.
-/

namespace QuadWalk.QuadStore

open Interner

variable {s s' s'' : QuadStore} {ids : List NodeId} {q : StoredQuad} {x y : Quad}

/-! ### What is kept -/

theorem contains_iff : s.contains q = true ↔
    ∃ position ∈ (s.outgoing.positions q.subject).toList, s.quads[position]? = some q := by
  rw [QuadStore.contains, List.contains_iff_mem, edges, List.mem_filterMap]
  rfl

/-- From one store to another, numbers keep their values, nodes remain nodes, and quads that are
found are found again. -/
structure Keeps (s s' : QuadStore) : Prop where
  interner : Grows s.interner s'.interner
  nodes : ∀ id ∈ s.nodes, id ∈ s'.nodes
  contains : ∀ q, s.contains q = true → s'.contains q = true

namespace Keeps

theorem refl (s : QuadStore) : Keeps s s := ⟨Grows.refl _, fun _ h => h, fun _ h => h⟩

theorem trans (h : Keeps s s') (h' : Keeps s' s'') : Keeps s s'' where
  interner := Grows.trans h.interner h'.interner
  nodes := fun id hid => h'.nodes id (h.nodes id hid)
  contains := fun q hq => h'.contains q (h.contains q hq)

end Keeps

theorem Numbers.keeps (h : Numbers s s' ids) : Keeps s s' where
  interner := h.interner
  nodes := fun id hid => (h.nodes id).2 (.inl hid)
  contains := fun q hq => (h.contains q).trans hq

/-- A quad that is put in is found. -/
theorem contains_append (s : QuadStore) (q : StoredQuad) : (s.append q).contains q = true := by
  rw [contains_iff]
  refine ⟨s.quads.size, ?_, Array.getElem?_push_size⟩
  rw [QuadStore.append, QuadIndex.positions_add]
  simp

/-- Putting in a quad changes no position of another one. -/
theorem keeps_append (s : QuadStore) (q : StoredQuad) : Keeps s (s.append q) where
  interner := Grows.refl _
  nodes := fun _ hid => hid
  contains := by
    intro q' hq'
    obtain ⟨position, hmem, hposition⟩ := contains_iff.1 hq'
    refine contains_iff.2 ⟨position, ?_, ?_⟩
    · rw [QuadStore.append, QuadIndex.positions_add]
      split
      · simpa using .inl (Array.mem_toList_iff.1 hmem)
      · exact hmem
    · have hlt : position < s.quads.size := (Array.getElem?_eq_some_iff.1 hposition).1
      rw [QuadStore.append, Array.getElem?_push_lt hlt, ← hposition, Array.getElem?_eq_getElem hlt]

/-- A store has a quad, at values that are nodes. -/
def Finds (s : QuadStore) (x : Quad) : Prop :=
  ∃ q, Resolves s.interner q x ∧ (∀ id ∈ q.ids, id ∈ s.nodes) ∧ s.contains q = true

theorem Finds.keeps (h : Finds s x) (hs : Keeps s s') : Finds s' x := by
  obtain ⟨q, hx, hids, hq⟩ := h
  exact ⟨q, hx.grows hs.interner, fun id hid => hs.nodes id (hids id hid), hs.contains q hq⟩

/-- A quad that is found is not added, and nothing changes. -/
theorem Finds.add (h : Finds s x) : s.add x = (false, s) := by
  obtain ⟨q, hx, hids, hq⟩ := h
  unfold QuadStore.add
  simp only [internQuad_of_resolves hx hids, hq, if_true]

/-! ### One quad -/

/-- Adding a quad keeps what is there, and then the quad is found. -/
theorem keeps_add (s : QuadStore) (x : Quad) : Keeps s (s.add x).2 ∧ Finds (s.add x).2 x := by
  obtain ⟨q, s', -, hn, hx, ⟨hold, hadd⟩ | ⟨-, hadd⟩⟩ := add_cases s x
  all_goals
    have hids : ∀ id ∈ q.ids, id ∈ s'.nodes := fun id hid => (hn.nodes id).2 (.inr hid)
    rw [hadd]
  · exact ⟨hn.keeps, q, hx, hids, hold⟩
  · exact ⟨hn.keeps.trans (keeps_append s' q), q, hx, hids, contains_append s' q⟩

/-- A store has more stored quads than another one, as many as were counted, and each of them is one
of the quads that were added. -/
structure Gained (s s' : QuadStore) (qs : List Quad) (count : Nat) (new : List StoredQuad) :
    Prop where
  quads : s'.quads.toList = s.quads.toList ++ new
  length : new.length = count
  resolves : ∀ q ∈ new, ∃ x ∈ qs, Resolves s'.interner q x

theorem gained_add (s : QuadStore) (x : Quad) :
    ∃ new, Gained s (s.add x).2 [x] (if (s.add x).1 then 1 else 0) new := by
  obtain ⟨q, s', -, hn, hx, ⟨-, hadd⟩ | ⟨-, hadd⟩⟩ := add_cases s x
  · refine ⟨[], ?_, ?_, ?_⟩
    · rw [hadd, hn.quads, List.append_nil]
    · rw [hadd]
      rfl
    · simp
  · have hresolves : Resolves (s'.append q).interner q x := hx
    refine ⟨[q], ?_, ?_, ?_⟩
    · rw [hadd, QuadStore.append, Array.toList_push, hn.quads]
    · rw [hadd]
      rfl
    · rw [hadd]
      simpa using hresolves

/-! ### Many quads -/

theorem addAll_cons (s : QuadStore) (x : Quad) (qs : List Quad) :
    s.addAll (x :: qs) = ((if (s.add x).1 then 1 else 0) + ((s.add x).2.addAll qs).1,
      ((s.add x).2.addAll qs).2) := by
  rcases h : s.add x with ⟨isNew, s'⟩
  rw [addAll, h]
  cases isNew <;> simp [Nat.add_comm]

theorem addAll_snd (s : QuadStore) (qs : List Quad) :
    (s.addAll qs).2 = qs.foldl (fun s x => (s.add x).2) s := by
  induction qs generalizing s with
  | nil => rfl
  | cons x qs ih => rw [addAll_cons, ih, List.foldl_cons]

theorem keeps_addAll (s : QuadStore) (qs : List Quad) :
    Keeps s (s.addAll qs).2 ∧ ∀ x ∈ qs, Finds (s.addAll qs).2 x := by
  induction qs generalizing s with
  | nil => exact ⟨.refl s, by simp⟩
  | cons x qs ih =>
    obtain ⟨hx, hfinds⟩ := keeps_add s x
    obtain ⟨hqs, hrest⟩ := ih (s.add x).2
    rw [addAll_cons]
    exact ⟨hx.trans hqs, List.forall_mem_cons.2 ⟨hfinds.keeps hqs, hrest⟩⟩

/-- Quads that are all found are not added, and nothing changes. -/
theorem addAll_of_finds {qs : List Quad} (h : ∀ x ∈ qs, Finds s x) : s.addAll qs = (0, s) := by
  induction qs with
  | nil => rfl
  | cons x qs ih =>
    obtain ⟨hx, hqs⟩ := List.forall_mem_cons.1 h
    rw [addAll_cons, hx.add, ih hqs]
    rfl

theorem gained_addAll (s : QuadStore) (qs : List Quad) :
    ∃ new, Gained s (s.addAll qs).2 qs (s.addAll qs).1 new := by
  induction qs generalizing s with
  | nil => exact ⟨[], (List.append_nil _).symm, rfl, by simp⟩
  | cons x qs ih =>
    obtain ⟨first, hfirst⟩ := gained_add s x
    obtain ⟨rest, hrest⟩ := ih (s.add x).2
    have hkeeps := (keeps_addAll (s.add x).2 qs).1
    rw [addAll_cons]
    refine ⟨first ++ rest, ?_, ?_, ?_⟩
    · rw [hrest.quads, hfirst.quads, List.append_assoc]
    · rw [List.length_append, hfirst.length, hrest.length]
    · intro q hq
      rcases List.mem_append.1 hq with hq | hq
      · obtain ⟨y, hy, hqy⟩ := hfirst.resolves q hq
        rw [List.mem_singleton] at hy
        exact ⟨y, hy ▸ List.mem_cons_self, hqy.grows hkeeps.interner⟩
      · obtain ⟨y, hy, hqy⟩ := hrest.resolves q hq
        exact ⟨y, List.mem_cons_of_mem x hy, hqy⟩

/-! ### Files -/

/-- What an attempt to load does to a store, by what the statements of the file say. -/
inductive LoadsWhole (load : QuadStore → Except LoadError Nat × QuadStore) (format : RdfFormat)
    (found : Statements) (s : QuadStore) : Prop where
  /-- The file is refused, saying no quads, and the store remains as it was. -/
  | fails (e : LoadError) (refused : found.Refused format e) (silent : ∀ qs, ¬ found.Say qs)
    (result : (load s).1 = .error e) (unchanged : (load s).2 = s)
  /-- The file says quads, and these are added one by one. The result is by how much the store
  grows. All that is new in it has identifiers where they belong. Loading once more adds nothing and
  changes nothing. -/
  | adds (qs : List Quad) (count : Nat) (s' : QuadStore) (new : List StoredQuad)
    (said : found.Say qs) (result : load s = (.ok count, s'))
    (oneByOne : s' = qs.foldl (fun s x => (s.add x).2) s)
    (size : s'.size = s.size + count)
    (quads : s'.quads.toList = s.quads.toList ++ new)
    (identified : ∀ q ∈ new, ∃ x ∈ qs, s'.resolve? q = some x ∧ x.Identified)
    (again : load s' = (.ok 0, s'))

/-- A file that is refused changes nothing. -/
theorem loadStatements_of_refused {format : RdfFormat} {found : Statements} {e : LoadError}
    (h : found.Refused format e) (s : QuadStore) :
    s.loadStatements format found = (.error e, s) := by
  unfold loadStatements
  rw [Statements.quads_eq_error.2 h]

/-- Of a file that says quads, these are added. -/
theorem loadStatements_of_say {found : Statements} {qs : List Quad} (h : found.Say qs)
    (format : RdfFormat) (s : QuadStore) :
    s.loadStatements format found = (.ok (s.addAll qs).1, (s.addAll qs).2) := by
  unfold loadStatements
  rw [Statements.quads_eq_ok.2 h]

theorem loadsWhole_loadStatements (s : QuadStore) (format : RdfFormat) (found : Statements) :
    LoadsWhole (fun s => s.loadStatements format found) format found s := by
  cases hquads : found.quads format with
  | error e =>
    have hrefused := Statements.quads_eq_error.1 hquads
    have hload := loadStatements_of_refused hrefused s
    exact .fails e hrefused hrefused.not_say (congrArg Prod.fst hload) (congrArg Prod.snd hload)
  | ok qs =>
    have hsay := Statements.quads_eq_ok.1 hquads
    obtain ⟨new, hnew⟩ := gained_addAll s qs
    refine .adds qs (s.addAll qs).1 (s.addAll qs).2 new hsay (loadStatements_of_say hsay format s)
      (addAll_snd s qs) ?_ hnew.quads ?_ ?_
    · rw [size, size, ← Array.length_toList, hnew.quads, List.length_append, hnew.length,
        Array.length_toList]
    · intro q hq
      obtain ⟨x, hx, hqx⟩ := hnew.resolves q hq
      exact ⟨x, hx, resolve?_of_resolves hqx, hsay.identified x hx⟩
    · rw [loadStatements_of_say hsay, addAll_of_finds (keeps_addAll s qs).2]

/-- **Loading is all or nothing, and loading again does nothing.** This is so for every store and
every file, in whatever way its statements are read, and so in the way in which they are. -/
theorem loadsWhole (read : RdfFormat → List UInt8 → Statements) (s : QuadStore)
    (format : RdfFormat) (bytes : List UInt8) :
    LoadsWhole (fun s => s.loadStatements format (read format bytes)) format (read format bytes) s ∧
    LoadsWhole (fun s => s.loadBytes format bytes) format (Statements.read format bytes) s :=
  ⟨loadsWhole_loadStatements s format (read format bytes),
    loadsWhole_loadStatements s format (Statements.read format bytes)⟩

end QuadWalk.QuadStore
