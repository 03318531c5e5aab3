import QuadWalk.Proofs.Faults
import QuadWalk.Proofs.OrderFree

/-!
# The order in which quads are added does not matter

The order in which quads are added decides the numbers of nodes, the order in which a store lists
them, and the order of the edges at a node. But it does not decide which quads are there: a store
holds the quads that were added to it (`QuadStore.holds_ofQuads_iff`), and stores that hold the same
quads correspond, with nodes being the same if they have one value
(`QuadStore.Equivalent.corresponds`).

An order-free query then has the same results on both, each as often on the one as on the other; and
if it sorts them at the end, they are the same list, since the order of values tells all different
values apart.
-/

namespace QuadWalk

/-- The values that occur in a quad. -/
def Quad.values (x : Quad) : List Value := x.subject :: x.predicate :: x.object :: x.label.toList

namespace QuadStore

open Interner

variable {s s' : QuadStore} {t t' : Interner} {q q' : StoredQuad} {x y : Quad} {v : Value}

/-! ### The quads of a store -/

namespace Resolves

/-- At the nodes of a quad are its values. -/
theorem map_ids (h : Resolves t q x) : q.ids.map t.lookup? = x.values.map some := by
  have hlabel : q.label.toList.map t.lookup? = x.label.toList.map some := by
    have hl := h.label
    cases hq : q.label <;> cases hx : x.label <;> simp_all
  simp only [StoredQuad.ids, Quad.values, List.map_cons, h.subject, h.predicate, h.object, hlabel]

/-- A value occurs in a quad if its number does in the stored one. -/
theorem mem_values_iff (h : Resolves t q x) :
    v ∈ x.values ↔ ∃ id ∈ q.ids, t.lookup? id = some v := by
  rw [← List.mem_map, h.map_ids]
  simp

theorem unique (h : Resolves t q x) (h' : Resolves t q y) : x = y := by
  obtain ⟨hs, hp, ho, hl⟩ := h
  obtain ⟨hs', hp', ho', hl'⟩ := h'
  obtain ⟨subject, predicate, object, label⟩ := x
  obtain ⟨subject', predicate', object', label'⟩ := y
  obtain rfl : label = label' :=
    (Option.map_injective (Option.some_injective _)) (hl.symm.trans hl')
  simp_all

/-- No quad is stored under two sets of numbers. -/
theorem inj (h : Resolves t q x) (h' : Resolves t q' x) : q = q' := by
  obtain ⟨hs, hp, ho, hl⟩ := h
  obtain ⟨hs', hp', ho', hl'⟩ := h'
  obtain ⟨subject, predicate, object, label⟩ := q
  obtain ⟨subject', predicate', object', label'⟩ := q'
  have hlabel : label = label' := by
    cases label <;> cases label' <;> cases hx : x.label <;> simp_all
    exact lookup?_inj hl hl'
  obtain rfl := lookup?_inj hs hs'
  obtain rfl := lookup?_inj hp hp'
  obtain rfl := lookup?_inj ho ho'
  rw [hlabel]

end Resolves

/-- A quad is in the store. -/
def Holds (s : QuadStore) (x : Quad) : Prop := ∃ q ∈ s.quads.toList, Resolves s.interner q x

/-- Giving out numbers does not change which quads are there. -/
theorem Indexed.holds_numbers_iff {ids : List NodeId} (h : Indexed s) (hn : Numbers s s' ids) :
    Holds s' x ↔ Holds s x := by
  unfold Holds
  rw [hn.quads]
  constructor
  · rintro ⟨q, hq, hx⟩
    obtain ⟨y, hy⟩ := h.resolved q hq
    obtain rfl := hx.unique (hy.grows hn.interner)
    exact ⟨q, hq, hy⟩
  · rintro ⟨q, hq, hx⟩
    exact ⟨q, hq, hx.grows hn.interner⟩

/-- After a quad is added, it is there, and so is what was there before. -/
theorem Indexed.holds_add_iff (h : Indexed s) : Holds (s.add y).2 x ↔ Holds s x ∨ x = y := by
  obtain ⟨q, s', -, hn, hy, ⟨hold, hadd⟩ | ⟨-, hadd⟩⟩ := add_cases s y
  · rw [hadd, h.holds_numbers_iff hn]
    refine ⟨.inl, fun hx => hx.elim (fun hx => hx) ?_⟩
    rintro rfl
    rw [hn.contains, h.contains_iff] at hold
    exact (h.holds_numbers_iff hn).1 ⟨q, hn.quads ▸ hold, hy⟩
  · rw [hadd, ← h.holds_numbers_iff hn]
    simp only [Holds, QuadStore.append, Array.toList_push, List.mem_append, List.mem_singleton,
      or_and_right, exists_or, exists_eq_left]
    refine or_congr_right ⟨fun hx => hx.unique hy, ?_⟩
    rintro rfl
    exact hy

theorem indexed_addAll (h : Indexed s) (qs : List Quad) : Indexed (s.addAll qs).2 :=
  addAll_induction (fun _ q hs => hs.add q) h qs

theorem Indexed.holds_addAll_iff (h : Indexed s) (qs : List Quad) :
    Holds (s.addAll qs).2 x ↔ Holds s x ∨ x ∈ qs := by
  induction qs generalizing s with
  | nil => simp [addAll]
  | cons q qs ih =>
    show Holds ((s.add q).2.addAll qs).2 x ↔ _
    rw [ih (h.add q), h.holds_add_iff, List.mem_cons, or_assoc]

/-- **A store made of quads holds these quads and no others.** -/
theorem holds_ofQuads_iff (qs : List Quad) : Holds (ofQuads qs) x ↔ x ∈ qs := by
  rw [ofQuads, indexed_empty.holds_addAll_iff]
  simp [Holds, empty]

theorem indexed_ofQuads (qs : List Quad) : Indexed (ofQuads qs) := indexed_addAll indexed_empty qs

theorem complete_ofQuads (qs : List Quad) : Complete (ofQuads qs) :=
  addAll_induction (fun _ q hs => hs.add q) .empty qs

/-- The nodes are the values of the quads that are there. -/
theorem Indexed.mem_nodes_iff (h : Indexed s) (hs : Complete s) :
    (∃ id, s.interner.lookup? id = some v) ↔ ∃ x, Holds s x ∧ v ∈ x.values := by
  constructor
  · rintro ⟨id, hid⟩
    obtain ⟨q, hq, hmem⟩ := (h.nodes id).1 (hs id v hid)
    obtain ⟨x, hx⟩ := h.resolved q hq
    exact ⟨x, ⟨q, hq, hx⟩, hx.mem_values_iff.2 ⟨id, hmem, hid⟩⟩
  · rintro ⟨x, ⟨q, -, hx⟩, hv⟩
    obtain ⟨id, -, hid⟩ := hx.mem_values_iff.1 hv
    exact ⟨id, hid⟩

/-! ### Stores with the same quads -/

/-- Nodes of two stores are the same if they have one value. -/
def SameNode (s s' : QuadStore) (i j : NodeId) : Prop :=
  ∃ v, s.interner.lookup? i = some v ∧ s'.interner.lookup? j = some v

/-- Quads of two stores are the same if they have the same values. -/
def SameQuad (s s' : QuadStore) (q q' : StoredQuad) : Prop :=
  ∃ x, Resolves s.interner q x ∧ Resolves s'.interner q' x

theorem sameNode_oneToOne (s s' : QuadStore) : OneToOne (SameNode s s') := by
  rintro i i' j j' ⟨v, hi, hj⟩ ⟨v', hi', hj'⟩
  constructor
  · rintro rfl
    cases hi.symm.trans hi'
    exact lookup?_inj hj hj'
  · rintro rfl
    cases hj.symm.trans hj'
    exact lookup?_inj hi hi'

theorem sameQuad_oneToOne (s s' : QuadStore) : OneToOne (SameQuad s s') := by
  rintro q r q' r' ⟨x, hq, hq'⟩ ⟨y, hr, hr'⟩
  constructor
  · rintro rfl
    obtain rfl := hq.unique hr
    exact hq'.inj hr'
  · rintro rfl
    obtain rfl := hq'.unique hr'
    exact hq.inj hr

namespace SameQuad

variable (h : SameQuad s s' q q')

include h

theorem predicate : SameNode s s' q.predicate q'.predicate :=
  have ⟨x, hx, hx'⟩ := h
  ⟨x.predicate, hx.predicate, hx'.predicate⟩

theorem near (d : Direction) : SameNode s s' (q.near d) (q'.near d) := by
  obtain ⟨x, hx, hx'⟩ := h
  cases d with
  | forward => exact ⟨x.subject, hx.subject, hx'.subject⟩
  | backward => exact ⟨x.object, hx.object, hx'.object⟩

theorem far (d : Direction) : SameNode s s' (q.far d) (q'.far d) := by
  obtain ⟨x, hx, hx'⟩ := h
  cases d with
  | forward => exact ⟨x.object, hx.object, hx'.object⟩
  | backward => exact ⟨x.subject, hx.subject, hx'.subject⟩

end SameQuad

/-- Two stores hold the same quads, and their nodes are the values of these. -/
structure Equivalent (s s' : QuadStore) : Prop where
  indexed : Indexed s
  indexed' : Indexed s'
  complete : Complete s
  complete' : Complete s'
  holds : ∀ x, Holds s x ↔ Holds s' x

namespace Equivalent

variable {i j : NodeId} {ps qs : NodeSet}

theorem symm (h : Equivalent s s') : Equivalent s' s :=
  ⟨h.indexed', h.indexed, h.complete', h.complete, fun x => (h.holds x).symm⟩

/-- A value has a number in one store if it has one in the other. -/
theorem exists_lookup? (h : Equivalent s s') (hi : s.interner.lookup? i = some v) :
    ∃ j, s'.interner.lookup? j = some v := by
  obtain ⟨x, hx, hv⟩ := (h.indexed.mem_nodes_iff h.complete).1 ⟨i, hi⟩
  exact (h.indexed'.mem_nodes_iff h.complete').2 ⟨x, (h.holds x).1 hx, hv⟩

theorem exists_sameNode (h : Equivalent s s') (hi : i ∈ s.graph.nodes) :
    ∃ j ∈ s'.graph.nodes, SameNode s s' i j := by
  obtain ⟨v, hv⟩ := h.indexed.exists_lookup? (Std.TreeSet.mem_toList.1 hi)
  obtain ⟨j, hj⟩ := h.exists_lookup? hv
  exact ⟨j, Std.TreeSet.mem_toList.2 (h.complete' j v hj), v, hv, hj⟩

theorem exists_sameQuad (h : Equivalent s s') (hq : q ∈ s.quads.toList) :
    ∃ q' ∈ s'.quads.toList, SameQuad s s' q q' := by
  obtain ⟨x, hx⟩ := h.indexed.resolved q hq
  obtain ⟨q', hq', hx'⟩ := (h.holds x).1 ⟨q, hq, hx⟩
  exact ⟨q', hq', x, hx, hx'⟩

theorem paired_nodes (h : Equivalent s s') :
    Paired (SameNode s s') s.graph.nodes s'.graph.nodes := by
  refine .of_nodup (sameNode_oneToOne s s') (h.indexed.scanned.nodes_ascend.imp Nat.ne_of_lt)
    (h.indexed'.scanned.nodes_ascend.imp Nat.ne_of_lt) (fun i hi => h.exists_sameNode hi) ?_
  intro j hj
  obtain ⟨i, hi, v, hv', hv⟩ := h.symm.exists_sameNode hj
  exact ⟨i, hi, v, hv, hv'⟩

theorem paired_quads (h : Equivalent s s') :
    Paired (SameQuad s s') s.quads.toList s'.quads.toList := by
  refine .of_nodup (sameQuad_oneToOne s s') h.indexed.nodup h.indexed'.nodup
    (fun q hq => h.exists_sameQuad hq) ?_
  intro q' hq'
  obtain ⟨q, hq, x, hx', hx⟩ := h.symm.exists_sameQuad hq'
  exact ⟨q, hq, x, hx, hx'⟩

/-- The quads at which walks from the same nodes begin. -/
theorem paired_incident (h : Equivalent s s') (d : Direction) (hij : SameNode s s' i j) :
    Paired (SameQuad s s') (s.incident i d) (s'.incident j d) :=
  h.paired_quads.filter fun _ _ _ _ hq =>
    decide_eq_decide.2 (sameNode_oneToOne s s' (hq.near d) hij)

theorem mentions (h : Equivalent s s') (hij : SameNode s s' i j) :
    s.Mentions i ∧ s'.Mentions j := by
  obtain ⟨v, hi, hj⟩ := hij
  exact ⟨(h.indexed.nodes i).1 (h.complete i v hi), (h.indexed'.nodes j).1 (h.complete' j v hj)⟩

/-- **Stores that hold the same quads correspond**, as graphs. -/
theorem corresponds (h : Equivalent s s') : s.graph.Corresponds s'.graph (SameNode s s') where
  oneToOne := sameNode_oneToOne s s'
  nodes := h.paired_nodes
  lookup := by
    intro v
    show Option.Rel _ (s.interner.idOf? v) (s'.interner.idOf? v)
    cases hi : s.interner.idOf? v with
    | some i =>
      obtain ⟨j, hj⟩ := h.exists_lookup? (idOf?_eq_some_iff.1 hi)
      rw [idOf?_eq_some_iff.2 hj]
      exact .some ⟨v, idOf?_eq_some_iff.1 hi, hj⟩
    | none =>
      cases hj : s'.interner.idOf? v with
      | none => exact .none
      | some j =>
        obtain ⟨i, hi'⟩ := h.symm.exists_lookup? (idOf?_eq_some_iff.1 hj)
        rw [idOf?_eq_some_iff.2 hi'] at hi
        cases hi
  valueOf := by
    rintro i j ⟨v, hi, hj⟩
    refine ⟨v, ?_, ?_⟩
    · simp only [graph, QuadStore.valueOf, hi]
    · simp only [graph, QuadStore.valueOf, hj]
  neighbors := by
    intro i j ps qs d hij hp
    obtain ⟨hmi, hmj⟩ := h.mentions hij
    refine ⟨_, _, (h.indexed.scanned.neighbors i ps d).trans (if_pos hmi),
      (h.indexed'.scanned.neighbors j qs d).trans (if_pos hmj), Paired.map_iff.2 ?_⟩
    have hfilter := (h.paired_incident d hij).filter fun _ _ _ _ hq => hp hq.predicate
    exact hfilter.mono fun _ _ _ _ hq => hq.far d
  predicates := by
    intro i j d hij
    obtain ⟨hmi, hmj⟩ := h.mentions hij
    have hnames : Paired (SameNode s s') ((s.incident i d).map (·.predicate))
        ((s'.incident j d).map (·.predicate)) :=
      Paired.map_iff.2 ((h.paired_incident d hij).mono fun _ _ _ _ hq => hq.predicate)
    refine ⟨_, _, (h.indexed.scanned.predicates i d).trans (if_pos hmi),
      (h.indexed'.scanned.predicates j d).trans (if_pos hmj),
      hnames.eraseDups (sameNode_oneToOne s s')⟩

end Equivalent

/-- Stores to which the same quads were added, in whatever order, hold the same quads. -/
theorem equivalent_of_perm {qs qs' : List Quad} (h : qs.Perm qs') :
    Equivalent (ofQuads qs) (ofQuads qs') where
  indexed := indexed_ofQuads qs
  indexed' := indexed_ofQuads qs'
  complete := complete_ofQuads qs
  complete' := complete_ofQuads qs'
  holds := by
    intro x
    rw [holds_ofQuads_iff, holds_ofQuads_iff]
    exact h.mem_iff

end QuadStore

/-! ### Results -/

/-- What a row reports: the value of its place and the values of its tags. -/
def Graph.report (g : Graph) (item : Item) : Except QueryError (Value × TagMap Value) := do
  let r ← item
  let v ← g.valueAt r.position
  let bindings ← g.tagValues r
  pure (v, bindings)

namespace Graph.Corresponds

variable {g h : Graph} {Same : NodeId → NodeId → Prop} {r s : Row}

/-- Like rows report the same. -/
theorem exists_report (hc : g.Corresponds h Same) (hrs : r.Alike Same s) :
    ∃ report, g.report (.ok r) = .ok report ∧ h.report (.ok s) = .ok report := by
  obtain ⟨v, hv, hv'⟩ := hc.valueAt hrs.position
  obtain ⟨bindings, hb, hb'⟩ := hrs.tags.exists_traverse fun _ _ hpq => hc.valueAt hpq
  refine ⟨(v, bindings), ?_, ?_⟩
  · simp only [report, tagValues, hv, hb, bind, Except.bind, pure, Except.pure]
  · simp only [report, tagValues, hv', hb', bind, Except.bind, pure, Except.pure]

end Graph.Corresponds

namespace Items

/-- The values of sorted rows, as a query answers with them. -/
theorem exists_answers_of_order {g : Graph} {items : Items} {rows : List Row}
    (h : Lists (order g items) rows) :
    ∃ values : List Value, rows.map (g.valueAt ·.position) = values.map .ok ∧
      (values.Pairwise fun v w => v.totalLe w = true) ∧
      (g.answers .values fun _ => order g items).toList = values.map fun v => .ok (.value v) := by
  obtain ⟨_, -, -, values, hvalues, hsorted⟩ := exists_of_lists_order h
  refine ⟨values, hvalues, hsorted, ?_⟩
  have hanswers : (g.answers .values fun _ => order g items).toList =
      (rows.map (g.valueAt ·.position)).map fun value => value.map .value := by
    rw [Graph.answers, Graph.answerEach, LazyList.toList_map, h, List.map_map, List.map_map]
    rfl
  rw [hanswers, hvalues, List.map_map]
  rfl

end Items

namespace Step

open Items QuadStore

/-- A query without comparisons has no errors on a store that is made of quads. -/
theorem error_not_mem_of_comparisons {qs : List Quad} {s : Step} {settings : Settings}
    {q : PreparedQuery} (h : s.prepare settings = .ok q) (hnone : s.comparisons = [])
    (e : QueryError) : .error e ∉ (q.items (ofQuads qs).graph).toList := by
  intro he
  have hserves := (indexed_ofQuads qs).serves (complete_ofQuads qs)
  rcases cause_of_shows hserves h (.item he) with ⟨_, hfalse, _⟩ | hmismatch
  · exact hfalse.elim
  · exact not_mismatch hnone hmismatch

/-- **Results do not depend on the order in which quads are added.** On stores that are made of the
same quads in different orders, an order-free query that has no errors there has the same rows, each
as often, by the values of their places and the values of their tags; and if it sorts them at its
root, it answers with the same list. -/
theorem reports_perm {qs qs' : List Quad} (hperm : qs.Perm qs') {s : Step} {settings : Settings}
    {q : PreparedQuery} (h : s.prepare settings = .ok q)
    (hfree : ∀ p ∈ s.parts, p.isOrderFree = true)
    (herrors : ∀ e, .error e ∉ (q.items (ofQuads qs).graph).toList)
    (herrors' : ∀ e, .error e ∉ (q.items (ofQuads qs').graph).toList) :
    (∃ reports reports',
      (q.items (ofQuads qs).graph).toList.mapM (ofQuads qs).graph.report = .ok reports ∧
      (q.items (ofQuads qs').graph).toList.mapM (ofQuads qs').graph.report = .ok reports' ∧
      reports.Perm reports') ∧
    ∀ o, s = .order o →
      (q.answers (ofQuads qs).graph).toList = (q.answers (ofQuads qs').graph).toList := by
  have hc := (equivalent_of_perm hperm).corresponds
  obtain ⟨rows, hrows⟩ := exists_lists herrors
  obtain ⟨rows', hrows'⟩ := exists_lists herrors'
  have hagree : Agree (SameNode (ofQuads qs) (ofQuads qs')) (q.items (ofQuads qs).graph)
      (q.items (ofQuads qs').graph) := by
    rw [items_of_prepare h, items_of_prepare h]
    exact agree_meaning hc hfree (.atNode hc.nodes)
  have hpaired := hagree rows rows' hrows hrows'
  refine ⟨?_, ?_⟩
  · have hitems : Paired (fun item item' => ∃ report,
        (ofQuads qs).graph.report item = .ok report ∧
          (ofQuads qs').graph.report item' = .ok report)
        (q.items (ofQuads qs).graph).toList (q.items (ofQuads qs').graph).toList := by
      rw [hrows, hrows', Paired.map_iff]
      exact hpaired.mono fun _ _ _ _ hr => hc.exists_report hr
    exact hitems.exists_mapM_perm fun _ _ hreport => hreport
  · rintro o rfl
    obtain ⟨_, _, _, -, hshape, -⟩ := plans_of_prepare h
    rw [items_of_prepare h] at hrows hrows'
    obtain ⟨values, hvalues, hsorted, hanswers⟩ := exists_answers_of_order hrows
    obtain ⟨values', hvalues', hsorted', hanswers'⟩ := exists_answers_of_order hrows'
    have hsame : values.Perm values' := by
      refine hpaired.perm_of_map_eq (fun r r' hr => ?_) hvalues hvalues'
      obtain ⟨v, hv, hv'⟩ := hc.valueAt hr.position
      exact hv.trans hv'.symm
    have heq : values = values' :=
      hsame.eq_of_pairwise (fun _ _ _ _ => Value.totalLe_antisymm) hsorted hsorted'
    rw [PreparedQuery.answers, PreparedQuery.answers, hshape, items_of_prepare h,
      items_of_prepare h]
    exact hanswers.trans (heq ▸ hanswers'.symm)

/-- Who likes somebody, and whom, sorted. -/
def sortedLikes : Step :=
  .order (.combine .union
    (.visit .forward (.tagged (.vertex []) "who") (.vertex [.iri "likes"]))
    [.has .forward .placeholder (.vertex [.iri "likes"]) [.iri "bob"]])

/-- Some quads, one of them twice. -/
def likes : List Quad :=
  [.ofIris "dan" "likes" "alice" "", .ofIris "alice" "likes" "bob" "",
    .ofIris "alice" "likes" "bob" ""]

theorem reports_perm_likes :
    ∃ q, sortedLikes.prepare {} = .ok q ∧
      (∃ reports reports',
        (q.items (ofQuads likes).graph).toList.mapM (ofQuads likes).graph.report = .ok reports ∧
        (q.items (ofQuads likes.reverse).graph).toList.mapM (ofQuads likes.reverse).graph.report =
          .ok reports' ∧
        reports.Perm reports') ∧
      (q.answers (ofQuads likes).graph).toList =
        (q.answers (ofQuads likes.reverse).graph).toList := by
  have hprepare : (sortedLikes.prepare {}).isOk = true := by decide +kernel
  obtain ⟨q, hq⟩ := exists_eq_ok_of_isOk hprepare
  have hfree : ∀ p ∈ sortedLikes.parts, p.isOrderFree = true := by decide
  obtain ⟨hreports, hanswers⟩ := reports_perm (List.reverse_perm likes).symm hq hfree
    (error_not_mem_of_comparisons hq rfl) (error_not_mem_of_comparisons hq rfl)
  exact ⟨q, hq, hreports, hanswers _ rfl⟩

end Step

end QuadWalk
