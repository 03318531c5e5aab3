import QuadWalk.Proofs.Growth
import QuadWalk.Proofs.Insertion
import QuadWalk.Proofs.Places

/-!
# Queries that only grow with a store

Some steps only look for what is there (`Step.isPositive`): they walk, test for edges and values,
bind tags, and combine such steps. When quads are added to a store, a query of positive steps has
all of its rows again, under the same numbers (`Step.rows_of_addAll`). Steps that count, cut off,
sort, keep the first of several rows or look for what is absent are left out, and so is a step back
along the trail.

This holds of all stores, also of those in which a value has a number and is in no quad. A query may
fail at such a value; that it does not fail at more of them is part of what is proved, since a new
error in the property of a traversal would cost all of its rows.
-/

namespace QuadWalk

variable {N : NodeId → Prop} {g g' : Graph}

theorem ofStore_eq_ok {α : Type} {x : Except StoreError α} {a : α} :
    ofStore x = .ok a ↔ x = .ok a := by
  cases x <;> simp [ofStore]

/-! ### Graphs that grow -/

namespace Graph

/-- A graph has all that another one has, under the same numbers. The larger one serves its nodes
without faults, and a number that is found there is a node or was found before. -/
structure Grows (N : NodeId → Prop) (g g' : Graph) : Prop where
  serves : g'.withoutLookup.Serves N fun _ => False
  nodes : ∀ id ∈ g.nodes, id ∈ g'.nodes
  lookup : ∀ {v : Value} {id : NodeId}, g.lookup v = some id → g'.lookup v = some id
  settled : ∀ {v : Value} {id : NodeId}, g'.lookup v = some id → N id ∨ g.lookup v = some id
  valueOf : ∀ {id : NodeId} {v : Value}, g.valueOf id = .ok v → g'.valueOf id = .ok v
  neighbors : ∀ {id : NodeId} {ps qs : NodeSet} {d : Direction} {ids : List NodeId},
    (∀ i, ps i → qs i) → g.neighbors id ps d = .ok ids →
      N id ∧ ∃ ids', g'.neighbors id qs d = .ok ids' ∧ ∀ i ∈ ids, i ∈ ids'
  predicates : ∀ {id : NodeId} {d : Direction} {ids : List NodeId},
    g.predicates id d = .ok ids →
      N id ∧ ∃ ids', g'.predicates id d = .ok ids' ∧ ∀ i ∈ ids, i ∈ ids'

namespace Grows

variable (hg : g.Grows N g')

include hg

theorem lookupAll (values : List Value) : ∀ i ∈ g.lookupAll values, i ∈ g'.lookupAll values := by
  intro i hi
  obtain ⟨v, hv, hid⟩ := List.mem_filterMap.1 hi
  exact List.mem_filterMap.2 ⟨v, hv, hg.lookup hid⟩

theorem settled_lookupAll (values : List Value) :
    ∀ i ∈ g'.lookupAll values, N i ∨ i ∈ g.lookupAll values := by
  intro i hi
  obtain ⟨v, hv, hid⟩ := List.mem_filterMap.1 hi
  exact (hg.settled hid).imp_right fun hold => List.mem_filterMap.2 ⟨v, hv, hold⟩

theorem valueAt {p : Position} {v : Value} (h : g.valueAt p = .ok v) : g'.valueAt p = .ok v := by
  cases p with
  | stored id => exact valueAt_stored_eq_ok.2 (hg.valueOf (valueAt_stored_eq_ok.1 h))
  | computed w => exact h

/-- Walks in several directions, one after the other, lead to more nodes. -/
theorem neighborsEach {id : NodeId} {ps qs : NodeSet} (hp : ∀ i, ps i → qs i)
    {ds : List Direction} {reached : List (List NodeId)}
    (h : (ds.mapM fun d => ofStore (g.neighbors id ps d)) = .ok reached) :
    ∃ reached', (ds.mapM fun d => ofStore (g'.neighbors id qs d)) = .ok reached' ∧
      ∀ i ∈ reached.flatten, i ∈ reached'.flatten := by
  induction ds generalizing reached with
  | nil => exact ⟨[], rfl, by cases h; simp⟩
  | cons d ds ih =>
    rw [List.mapM_cons] at h
    obtain ⟨ids, hids, h⟩ := bind_ok_iff.1 h
    obtain ⟨rest, hrest, h⟩ := bind_ok_iff.1 h
    cases h
    obtain ⟨-, ids', hids', hmem⟩ := hg.neighbors hp (ofStore_eq_ok.1 hids)
    obtain ⟨rest', hrest', hmem'⟩ := ih hrest
    refine ⟨ids' :: rest', ?_, fun i hi => ?_⟩
    · rw [List.mapM_cons, ofStore_eq_ok.2 hids', hrest']
      rfl
    · rw [List.flatten_cons, List.mem_append] at hi ⊢
      exact hi.imp (hmem i) (hmem' i)

/-- Only at a node does a walk succeed. -/
theorem node_of_neighborsEach {id : NodeId} {ps : NodeSet} {t : Traversal}
    {reached : List (List NodeId)}
    (h : (t.directions.mapM fun d => ofStore (g.neighbors id ps d)) = .ok reached) : N id := by
  have hfirst : ∃ d ds, t.directions = d :: ds := by cases t <;> exact ⟨_, _, rfl⟩
  obtain ⟨d, ds, hd⟩ := hfirst
  rw [hd, List.mapM_cons] at h
  obtain ⟨ids, hids, -⟩ := bind_ok_iff.1 h
  exact (hg.neighbors (fun _ hi => hi) (ofStore_eq_ok.1 hids)).1

end Grows

end Graph

/-! ### Items on graphs that grow -/

/-- The rows with a tag bound to each node that is an answer about the node of a row. -/
def Row.bindEach (answer : NodeId → Except StoreError (List NodeId)) (tag : String) (r : Row) :
    Except QueryError (List Row) :=
  match r.position.node? with
  | none => .ok []
  | some id => (ofStore (answer id)).map fun ids => ids.map (r.bind tag)

namespace Items.Grows

theorem bindEach {items items' : Items} (h : Grows N items items')
    {answer answer' : NodeId → Except StoreError (List NodeId)} (tag : String)
    (hanswer : ∀ id ids, answer id = .ok ids →
      N id ∧ ∃ ids', answer' id = .ok ids' ∧ ∀ i ∈ ids, i ∈ ids')
    (hon : ∀ r : Row, r.On N →
      Yields (fun rs => ∀ x ∈ rs, x.On N) (fun _ => False) (r.bindEach answer' tag)) :
    Grows N (Items.expand (·.bindEach answer tag) items)
      (Items.expand (·.bindEach answer' tag) items') := by
  refine h.expand_of_node (fun r r' rs x hkey hrs hx => ?_) hon fun r rs hrs => ?_
  · obtain ⟨hposition, htags⟩ := Prod.mk.inj hkey
    unfold Row.bindEach at hrs ⊢
    rw [hposition]
    cases hid : r.position.node? with
    | none =>
      rw [hid] at hrs
      cases hrs
      simp at hx
    | some id =>
      rw [hid] at hrs
      obtain ⟨ids, hids, rfl⟩ := map_ok_iff.1 hrs
      obtain ⟨-, ids', hids', hmem⟩ := hanswer id ids (ofStore_eq_ok.1 hids)
      obtain ⟨i, hi, rfl⟩ := List.mem_map.1 hx
      refine ⟨_, map_ok_iff.2 ⟨ids', ofStore_eq_ok.2 hids', rfl⟩, r'.bind tag i,
        List.mem_map_of_mem (hmem i hi), ?_⟩
      simp only [rowKey, Row.bind, hposition, htags]
  · intro id hid
    unfold Row.bindEach at hrs
    rw [hid] at hrs
    obtain ⟨ids, hids, -⟩ := map_ok_iff.1 hrs
    exact (hanswer id ids (ofStore_eq_ok.1 hids)).1

variable {items items' : Items} (h : Grows N items items') (hg : g.Grows N g')

include h hg

theorem walk {ps qs : NodeSet} (hp : ∀ i, ps i → qs i) (t : Traversal) :
    Grows N (Items.expand (g.walk t ps) items) (Items.expand (g'.walk t qs) items') := by
  refine h.expand_of_node (fun r r' rs x hkey hrs hx => ?_)
    (fun r hr => hg.serves.walk (fun _ hf => hf) hr t qs) fun r rs hrs => ?_
  · obtain ⟨hposition, htags⟩ := Prod.mk.inj hkey
    unfold Graph.walk at hrs ⊢
    rw [hposition]
    cases hid : r.position.node? with
    | none =>
      rw [hid] at hrs
      cases hrs
      simp at hx
    | some id =>
      rw [hid] at hrs
      obtain ⟨reached, hreached, hrs⟩ := bind_ok_iff.1 hrs
      cases hrs
      obtain ⟨reached', hreached', hmem⟩ := hg.neighborsEach hp hreached
      obtain ⟨i, hi, rfl⟩ := List.mem_map.1 hx
      refine ⟨_, bind_ok_iff.2 ⟨reached', hreached', rfl⟩, r'.moveTo i,
        List.mem_map_of_mem (hmem i hi), ?_⟩
      simp only [rowKey, Row.moveTo, htags]
  · intro id hid
    unfold Graph.walk at hrs
    rw [hid] at hrs
    obtain ⟨reached, hreached, -⟩ := bind_ok_iff.1 hrs
    exact hg.node_of_neighborsEach hreached

theorem save {ps qs : NodeSet} (hp : ∀ i, ps i → qs i) (d : Direction) (tag : String) :
    Grows N (Items.expand (g.save d ps tag) items) (Items.expand (g'.save d qs tag) items') :=
  h.bindEach tag (fun _ _ hids => hg.neighbors hp hids) fun _ hr =>
    hg.serves.save (fun _ hf => hf) hr d qs tag

theorem savePredicates (d : Direction) (tag : String) :
    Grows N (Items.expand (g.savePredicates d tag) items)
      (Items.expand (g'.savePredicates d tag) items') :=
  h.bindEach tag (fun _ _ hids => hg.predicates hids) fun _ hr =>
    hg.serves.savePredicates (fun _ hf => hf) hr d tag

/-- At a node there are more edges than before. Of a stray row it cannot be asked which it has. -/
theorem reaches {ps qs : NodeSet} (hp : ∀ i, ps i → qs i) (d : Direction) (values : List Value) :
    Grows N (Items.keep (g.reaches d ps (.ofList (g.lookupAll values))) items)
      (Items.keep (g'.reaches d qs (.ofList (g'.lookupAll values))) items') := by
  refine h.keep (fun r r' hkey ht => ?_) (fun r hr => hg.serves.reaches (fun _ hf => hf) hr d qs _)
    fun r r' b hr' hkey hb => ?_
  · obtain ⟨hposition, -⟩ := Prod.mk.inj hkey
    unfold Graph.reaches at ht ⊢
    rw [hposition]
    cases hid : r.position.node? with
    | none => simp [hid] at ht
    | some id =>
      rw [hid] at ht
      obtain ⟨ids, hids, hany⟩ := map_ok_iff.1 ht
      obtain ⟨-, ids', hids', hmem⟩ := hg.neighbors hp (ofStore_eq_ok.1 hids)
      refine map_ok_iff.2 ⟨ids', ofStore_eq_ok.2 hids', ?_⟩
      obtain ⟨i, hi, htarget⟩ := List.any_eq_true.1 hany
      have hold : i ∈ g.lookupAll values := List.contains_iff_mem.1 htarget
      exact List.any_eq_true.2
        ⟨i, hmem i hi, List.contains_iff_mem.2 (hg.lookupAll values i hold)⟩
  · refine absurd (fun id hid => ?_) (hr'.not_on hkey)
    unfold Graph.reaches at hb
    rw [hid] at hb
    obtain ⟨ids, hids, -⟩ := map_ok_iff.1 hb
    exact (hg.neighbors hp (ofStore_eq_ok.1 hids)).1

theorem passes (m : TextMatcher) :
    Grows N (Items.keep (g.passes m) items) (Items.keep (g'.passes m) items') := by
  have hsame (r r' : Row) (b : Bool) (hposition : r'.position = r.position)
      (hb : g.passes m r = .ok b) : g'.passes m r' = .ok b := by
    obtain ⟨v, hv, rfl⟩ := map_ok_iff.1 hb
    rw [Graph.passes, hposition, hg.valueAt hv]
    rfl
  refine h.keep (fun r r' hkey => hsame r r' true (congrArg Prod.fst hkey))
    (fun r hr => hg.serves.passes (fun _ hf => hf) hr m) fun r r' b _ hkey => ?_
  exact hsame r r' b (congrArg Prod.fst hkey).symm

end Items.Grows

/-! ### Positive steps -/

namespace Step

open Items

/-- Whether a step by itself only looks for what is there. -/
def isPositive : Step → Bool
  | entities _ | vertex _ | placeholder | visit _ _ _ | backTo _ _ | properties _ _ _
  | propertyNamesAs _ _ _ | has _ _ _ _ | isOneOf _ _ | combine .union _ _
  | combine .intersect _ _ | filter _ _ | tagged _ _ | follow _ _ => true
  | _ => false

/-- **The items of positive steps grow with the graph**, if those for which their placeholder stands
do. -/
theorem grows_meaning {sizeLimit : Nat} (hg : g.Grows N g') {s : Step}
    (hs : ∀ p ∈ s.parts, p.isPositive = true) {ph ph' : Items} (hph : Items.Grows N ph ph') :
    Items.Grows N (s.meaning sizeLimit g ph) (s.meaning sizeLimit g' ph') := by
  have of_previous {o : Step} (ho : s.previous? = some o) :
      Items.Grows N (o.meaning sizeLimit g ph) (o.meaning sizeLimit g' ph') := by
    have := sizeOf_lt_of_previous ho
    exact grows_meaning hg (fun p hp => hs p (mem_parts_of_previous ho hp)) hph
  have hself := hs s (mem_parts_self s)
  cases s with
  | entities ids =>
    refine .drain fun values hvalues => ⟨values, hvalues, ?_⟩
    exact .atNode (hg.lookupAll values) (hg.settled_lookupAll values)
  | vertex values =>
    rw [meaning, meaning]
    by_cases hempty : values.isEmpty = true
    · rw [if_pos hempty, if_pos hempty]
      exact .atNode hg.nodes fun i hi => .inl (hg.serves.nodes i hi)
    · rw [if_neg hempty, if_neg hempty]
      exact .atNode (hg.lookupAll values) (hg.settled_lookupAll values)
  | placeholder => exact hph
  | visit t o property =>
    have hproperty : Items.Grows N (property.meaning sizeLimit g ph)
        (property.meaning sizeLimit g' ph') :=
      grows_meaning hg (fun p hp => hs p (mem_parts_of_visited hp)) hph
    refine .drain fun ps hps => ?_
    obtain ⟨qs, hqs, hmem⟩ := hproperty.nodeSet? hps
    exact ⟨qs, hqs, (of_previous rfl).walk hg hmem t⟩
  | has d o property values =>
    have hproperty : Items.Grows N (property.meaning sizeLimit g ph)
        (property.meaning sizeLimit g' ph') :=
      grows_meaning hg (fun p hp => hs p (mem_parts_of_had hp)) hph
    refine .drain fun ps hps => ?_
    obtain ⟨qs, hqs, hmem⟩ := hproperty.nodeSet? hps
    exact ⟨qs, hqs, (of_previous rfl).reaches hg hmem d values⟩
  | backTo o tag => exact (of_previous rfl).backTo tag
  | properties d o names =>
    rw [meaning, meaning]
    have ho := of_previous rfl
    generalize o.meaning sizeLimit g ph = items at ho
    generalize o.meaning sizeLimit g' ph' = items' at ho
    clear of_previous hs hself
    induction names generalizing items items' with
    | nil => exact ho
    | cons name names ih =>
      refine ih _ _ (ho.save hg (fun i hi => ?_) d name)
      exact List.contains_iff_mem.2 (hg.lookupAll _ i (List.contains_iff_mem.1 hi))
  | propertyNamesAs d o tag => exact (of_previous rfl).savePredicates hg d tag
  | isOneOf o values =>
    refine (of_previous rfl).isOneOf (fun i hi => ?_) (fun i hi => ?_) values
    · exact List.contains_iff_mem.2 (hg.lookupAll values i (List.contains_iff_mem.1 hi))
    · exact (hg.settled_lookupAll values i (List.contains_iff_mem.1 hi)).imp_right
        List.contains_iff_mem.2
  | combine operation o ss =>
    have hss : Items.Grows.Each N (meaningEach sizeLimit g ss ph)
        (meaningEach sizeLimit g' ss ph') := by
      rw [meaningEach_eq_map, meaningEach_eq_map, Items.Grows.Each, List.forall₂_map_left_iff,
        List.forall₂_map_right_iff, List.forall₂_same]
      intro b hb
      have := List.sizeOf_lt_of_mem hb
      exact grows_meaning hg (fun p hp => hs p (mem_parts_of_combined hb hp)) hph
    cases operation with
    | union => exact ((of_previous rfl).append (.concat hss)).distinct
    | intersect => exact .siftBy (of_previous rfl) hss
    | difference => simp [isPositive] at hself
  | filter o condition =>
    exact .drain fun m hm => ⟨m, hm, (of_previous rfl).passes hg m⟩
  | tagged o name => exact (of_previous rfl).mark name
  | follow o f =>
    exact grows_meaning hg (fun p hp => hs p (mem_parts_of_fragment hp)) (of_previous rfl)
  | _ => simp [isPositive] at hself
termination_by sizeOf s

end Step

/-! ### Stores that grow -/

namespace QuadStore

variable {s s' : QuadStore}

/-- A store has what another one has, under the same numbers, and what else has a number there is a
node. -/
structure Enlarges (s s' : QuadStore) : Prop where
  interner : Interner.Grows s.interner s'.interner
  quads : ∀ q ∈ s.quads.toList, q ∈ s'.quads.toList
  settled : SettledSince s.interner s'

namespace Enlarges

theorem refl (s : QuadStore) : Enlarges s s where
  interner := Interner.Grows.refl _
  quads := fun _ hq => hq
  settled := .refl s

theorem add (h : Enlarges s s') (x : Quad) : Enlarges s (s'.add x).2 := by
  have hsettled := h.settled.add x
  obtain ⟨q, s'', -, hn, -, ⟨-, hadd⟩ | ⟨-, hadd⟩⟩ := add_cases s' x
  all_goals
    rw [hadd] at hsettled ⊢
    refine ⟨fun hv => hn.interner (h.interner hv), fun q' hq' => ?_, hsettled⟩
  · exact hn.quads ▸ h.quads q' hq'
  · rw [QuadStore.append, Array.toList_push, hn.quads]
    exact List.mem_append_left _ (h.quads q' hq')

theorem addAll (s : QuadStore) (qs : List Quad) : Enlarges s (s.addAll qs).2 :=
  addAll_induction (P := Enlarges s) (fun _ q h => h.add q) (.refl s) qs

/-- What is a node stays one. -/
theorem mentions (h : Enlarges s s') {id : NodeId} (hid : s.Mentions id) : s'.Mentions id := by
  obtain ⟨q, hq, hmem⟩ := hid
  exact ⟨q, h.quads q hq, hmem⟩

theorem mem_incident (h : Enlarges s s') {id : NodeId} {d : Direction} {q : StoredQuad}
    (hq : q ∈ s.incident id d) : q ∈ s'.incident id d := by
  obtain ⟨hmem, hnear⟩ := List.mem_filter.1 hq
  exact List.mem_filter.2 ⟨h.quads q hmem, hnear⟩

/-- **A store that has more is a larger graph.** -/
theorem grows_graph (h : Enlarges s s') (hs : Indexed s) (hs' : Indexed s') :
    s.graph.Grows (· ∈ s'.nodes) s'.graph where
  serves := hs'.serves_withoutLookup
  nodes := by
    intro id hid
    exact (hs'.scanned.mem_nodes id).2 (h.mentions ((hs.scanned.mem_nodes id).1 hid))
  lookup := by
    intro v id hv
    exact Interner.idOf?_eq_some_iff.2 (h.interner (Interner.idOf?_eq_some_iff.1 hv))
  settled := by
    intro v id hv
    exact (h.settled id v (Interner.idOf?_eq_some_iff.1 hv)).imp_right
      Interner.idOf?_eq_some_iff.2
  valueOf := by
    intro id v hv
    exact valueOf_eq_ok.2 (h.interner (valueOf_eq_ok.1 hv))
  neighbors := by
    intro id ps qs d ids hp hids
    rw [hs.scanned.neighbors] at hids
    split at hids
    · rename_i hid
      cases hids
      have hid' := h.mentions hid
      refine ⟨(hs'.nodes id).2 hid', _, (hs'.scanned.neighbors id qs d).trans (if_pos hid'), ?_⟩
      intro i hi
      obtain ⟨q, hq, rfl⟩ := List.mem_map.1 hi
      obtain ⟨hq, hpredicate⟩ := List.mem_filter.1 hq
      exact List.mem_map_of_mem (List.mem_filter.2 ⟨h.mem_incident hq, hp _ hpredicate⟩)
    · cases hids
  predicates := by
    intro id d ids hids
    rw [hs.scanned.predicates] at hids
    split at hids
    · rename_i hid
      cases hids
      have hid' := h.mentions hid
      refine ⟨(hs'.nodes id).2 hid', _, (hs'.scanned.predicates id d).trans (if_pos hid'), ?_⟩
      intro i hi
      obtain ⟨q, hq, rfl⟩ := List.mem_map.1 (List.mem_eraseDups.1 hi)
      exact List.mem_eraseDups.2 (List.mem_map_of_mem (h.mem_incident hq))
    · cases hids

end Enlarges

end QuadStore

/-! ### Queries on a store that grows -/

namespace Step

open Items QuadStore

/-- **Adding quads loses no result of a positive query.** Whatever was done to a store, and whatever
quads are then added to it, each row of a query of positive steps has one with the same place and
the same tags on the larger store, where all numbers have the values that they had before. And if
the query had no errors, then it still has none. -/
theorem rows_of_addAll (changes : List Change) (qs : List Quad) {s : Step} {settings : Settings}
    {q : PreparedQuery} (h : s.prepare settings = .ok q)
    (hs : ∀ p ∈ s.parts, p.isPositive = true) :
    (∀ r, .ok r ∈ (q.items (run changes).graph).toList →
      ∃ r', .ok r' ∈ (q.items ((run changes).addAll qs).2.graph).toList ∧
        r'.position = r.position ∧ r'.tags = r.tags) ∧
    (∀ id v, (run changes).graph.valueOf id = .ok v →
      ((run changes).addAll qs).2.graph.valueOf id = .ok v) ∧
    ((∀ e, .error e ∉ (q.items (run changes).graph).toList) →
      ∀ e, .error e ∉ (q.items ((run changes).addAll qs).2.graph).toList) := by
  have hindexed := indexed_run changes
  have hgraph := (Enlarges.addAll (run changes) qs).grows_graph hindexed
    (indexed_addAll hindexed qs)
  have hitems : Items.Grows (· ∈ ((run changes).addAll qs).2.nodes) (q.items (run changes).graph)
      (q.items ((run changes).addAll qs).2.graph) := by
    rw [items_of_prepare h, items_of_prepare h]
    exact grows_meaning hgraph hs (.atNode hgraph.nodes fun i hi => .inl (hgraph.serves.nodes i hi))
  refine ⟨fun r hr => ?_, fun id v hv => hgraph.valueOf hv, fun hnone e he => ?_⟩
  · obtain ⟨r', hr', hkey⟩ := hitems.rows r hr
    obtain ⟨hposition, htags⟩ := Prod.mk.inj hkey
    exact ⟨r', hr', hposition, htags⟩
  · obtain ⟨rows, hrows⟩ := exists_lists hnone
    exact hitems.sound rows hrows _ he

/-- A store with one relation, and a value that is in no quad. -/
def oneRelation : List Change :=
  [.add (.ofIris "likes" "is" "relation" ""), .add (.ofIris "alice" "likes" "bob" ""),
    .intern (.iri "carol")]

/-- Another relation, from that value. -/
def anotherRelation : List Quad :=
  [.ofIris "carol" "knows" "bob" "", .ofIris "knows" "is" "relation" ""]

/-- Whoever has a relation to somebody, with whom, and Carol. -/
def related : Step :=
  .combine .union
    (.visit .backward (.tagged (.vertex []) "whom")
      (.visit .backward (.vertex [.iri "relation"]) (.vertex [.iri "is"])))
    [.vertex [.iri "carol"]]

theorem rows_of_addAll_related :
    (∀ p ∈ related.parts, p.isPositive = true) ∧
    ∃ q, related.prepare {} = .ok q ∧
      (q.items (run oneRelation).graph).Lists
        [.moveTo (.mark (.atNode 4) "whom") 3, .atNode 5] ∧
      ∀ r ∈ [Row.moveTo (.mark (.atNode 4) "whom") 3, .atNode 5],
        ∃ r', .ok r' ∈ (q.items ((run oneRelation).addAll anotherRelation).2.graph).toList ∧
          r'.position = r.position ∧ r'.tags = r.tags := by
  have hpositive : ∀ p ∈ related.parts, p.isPositive = true := by decide
  have hprepare : (related.prepare {}).isOk = true := by decide +kernel
  obtain ⟨q, hq⟩ := exists_eq_ok_of_isOk hprepare
  have hrows : (q.items (run oneRelation).graph).Lists
      [.moveTo (.mark (.atNode 4) "whom") 3, .atNode 5] := by
    rw [items_of_prepare hq]
    refine eq_map_ok_of_toOption ?_
    rw [related, meaning, Items.distinct, LazyList.toList_distinct]
    decide +kernel
  obtain ⟨hkept, -, -⟩ := rows_of_addAll oneRelation anotherRelation hq hpositive
  exact ⟨hpositive, q, hq, hrows, fun r hr => hkept r (hrows.mem_iff.2 hr)⟩

end Step

end QuadWalk
