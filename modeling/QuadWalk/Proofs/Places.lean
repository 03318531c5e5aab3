import QuadWalk.Proofs.Interning
import QuadWalk.Proofs.Parts
import QuadWalk.Store.QuadStore

/-!
# Where rows can be

A place has a value: a node of a store the one that the store numbers, and no two nodes have the same
(`QuadStore.valueOf_inj`); a computed value has itself.

Rows begin at nodes and walk from node to node; only a count puts a row anywhere else. So whatever
all nodes are known to be, and all numbers if the step counts, holds of every place of every row of
a step, those under its tags and in its trail included, if it holds of the rows for which its
placeholder stands (`Step.within_meaning`).

Of a prepared query this says that each of its rows is at a node or, if it counts anything, at a
number (`Step.place_of_prepare`).
-/

namespace QuadWalk

/-! ### The values at places -/

theorem Graph.valueAt_stored_eq_ok {g : Graph} {id : NodeId} {v : Value} :
    g.valueAt (.stored id) = .ok v ↔ g.valueOf id = .ok v := by
  simp only [valueAt]
  cases g.valueOf id <;> simp [ofStore]

theorem Graph.valueAt_computed_eq_ok {g : Graph} {v w : Value} :
    g.valueAt (.computed w) = .ok v ↔ w = v := by
  simp [valueAt]

namespace QuadStore

variable {store : QuadStore} {i j : NodeId} {v : Value}

theorem valueOf_eq_ok : store.valueOf i = .ok v ↔ store.interner.lookup? i = some v := by
  unfold valueOf
  cases store.interner.lookup? i <;> simp

/-- No two nodes of a store have one value. -/
theorem valueOf_inj (hi : store.valueOf i = .ok v) (hj : store.valueOf j = .ok v) : i = j :=
  Interner.lookup?_inj (valueOf_eq_ok.1 hi) (valueOf_eq_ok.1 hj)

/-- The nodes that some values lead to are those that have one of them. -/
theorem mem_lookupAll {values : List Value} :
    i ∈ store.graph.lookupAll values ↔ ∃ v ∈ values, store.graph.valueAt (.stored i) = .ok v := by
  rw [Graph.lookupAll, List.mem_filterMap]
  refine exists_congr fun v => and_congr_right fun _ => ?_
  rw [Graph.valueAt_stored_eq_ok]
  exact Interner.idOf?_eq_some_iff.trans valueOf_eq_ok.symm

end QuadStore

/-! ### The places of rows -/

namespace Step

open Items

/-- **Rows keep to places that nodes have in common, and numbers, if anything is counted.** -/
theorem within_meaning {sizeLimit : Nat} {g : Graph} {P : Position → Prop}
    (hnode : ∀ id, P (.stored id)) {s : Step}
    (hcount : ∀ o n, .count o ∈ s.parts → P (.computed (.int n))) {ph : Items}
    (hph : ph.All (Row.Within P) fun _ => True) :
    (s.meaning sizeLimit g ph).All (Row.Within P) fun _ => True := by
  have hg := g.serves_all
  have hP {id : NodeId} : P (.stored id) ↔ True := iff_true_intro (hnode id)
  have nodes (ids : List NodeId) : (ofRows (ids.map .atNode)).All (Row.Within P) fun _ => True := by
    refine All.ofRows fun r hr => ?_
    obtain ⟨id, -, rfl⟩ := List.mem_map.1 hr
    exact .atNode (hnode id)
  have yields {α : Type} (x : Except QueryError α) : Yields (fun _ => True) (fun _ => True) x := by
    cases x <;> trivial
  have of_previous {o : Step} (ho : s.previous? = some o) :
      (o.meaning sizeLimit g ph).All (Row.Within P) fun _ => True := by
    have := sizeOf_lt_of_previous ho
    exact within_meaning hnode (fun p n hp => hcount p n (mem_parts_of_previous ho hp)) hph
  cases s with
  | entities ids => exact All.drain (yields _) fun values _ => nodes _
  | vertex values => exact nodes _
  | placeholder => exact hph
  | visit t o property =>
    refine All.drain (yields _) fun predicates _ => (of_previous rfl).expand fun r _ hr => ?_
    exact hg.walk_within (fun _ _ => trivial) hP hr t predicates
  | back o => exact (of_previous rfl).change fun r r' hr => hr.back?
  | backTo o tag => exact (of_previous rfl).change fun r r' hr => hr.backTo?
  | properties d o names =>
    rw [meaning]
    have ho := of_previous rfl
    generalize o.meaning sizeLimit g ph = items at ho
    clear of_previous hcount
    induction names generalizing items with
    | nil => exact ho
    | cons name names ih =>
      refine ih _ (ho.expand fun r _ hr => ?_)
      exact hg.save_within (fun _ _ => trivial) hP hr d _ name
  | propertyNames d o =>
    refine ((of_previous rfl).expand fun r _ hr => ?_).unique
    exact hg.walkToPredicates_within (fun _ _ => trivial) hP hr d
  | propertyNamesAs d o tag =>
    refine (of_previous rfl).expand fun r _ hr => ?_
    exact hg.savePredicates_within (fun _ _ => trivial) hP hr d tag
  | has d o property values =>
    exact All.drain (yields _) fun predicates _ => (of_previous rfl).keep fun r _ _ => yields _
  | isOneOf o values => exact (of_previous rfl).isOneOf
  | combine operation o ss =>
    have hss : ∀ b ∈ meaningEach sizeLimit g ss ph, (b ()).All (Row.Within P) fun _ => True := by
      intro b hb
      rw [meaningEach_eq_map] at hb
      obtain ⟨s, hs, rfl⟩ := List.mem_map.1 hb
      have := List.sizeOf_lt_of_mem hs
      exact within_meaning hnode (fun p n hp => hcount p n (mem_parts_of_combined hs hp)) hph
    cases operation with
    | union => exact (of_previous rfl).union hss
    | intersect => exact All.siftBy (of_previous rfl) hss
    | difference => exact All.siftBy (of_previous rfl) hss
  | filter o condition =>
    exact All.drain (yields _) fun m _ => (of_previous rfl).keep fun r _ _ => yields _
  | compare c o operand => exact (of_previous rfl).keep fun r _ _ => yields _
  | count o => exact (of_previous rfl).count fun n => .start (hcount o n (mem_parts_self _))
  | limit o n => exact All.limit (of_previous rfl)
  | skip o n => exact (of_previous rfl).skip
  | unique o => exact (of_previous rfl).unique
  | order o => exact (of_previous rfl).order fun r _ => yields _
  | tagged o name =>
    refine (of_previous rfl).change fun r r' hr hmark => ?_
    cases hmark
    exact hr.mark name
  | whereAll o ss =>
    refine (of_previous rfl).expand fun r _ hr => ?_
    refine All.join (fun b hb => ?_) (fun tags m => Row.Within.overlay) hr
    rw [meaningEach_eq_map] at hb
    obtain ⟨s, hs, rfl⟩ := List.mem_map.1 hb
    have := List.sizeOf_lt_of_mem hs
    exact within_meaning hnode (fun p n hp => hcount p n (mem_parts_of_branch hs hp))
      (All.ofRows (by simpa using hr))
  | optional o s =>
    refine (of_previous rfl).expand fun r _ hr => ?_
    refine All.join (fun b hb => ?_) (fun tags m => Row.Within.overlay) hr
    obtain rfl := List.mem_singleton.1 hb
    exact within_meaning hnode (fun p n hp => hcount p n (mem_parts_of_option hp))
      (All.ofRows (by simpa using hr))
  | follow o f =>
    exact within_meaning hnode (fun p n hp => hcount p n (mem_parts_of_fragment hp))
      (of_previous rfl)
  | select o | selectFirst o | documents o => exact of_previous (o := o) rfl
termination_by sizeOf s

/-- A row of a prepared query is at a node, or at a number that was counted. -/
theorem place_of_prepare {s : Step} {settings : Settings} {q : PreparedQuery}
    (h : s.prepare settings = .ok q) {g : Graph} {r : Row} (hr : .ok r ∈ (q.items g).toList) :
    (∃ id, r.position = .stored id) ∨
      (∃ n, r.position = .computed (.int n)) ∧ ∃ o, .count o ∈ s.parts := by
  let P (p : Position) : Prop :=
    (∃ id, p = .stored id) ∨ (∃ n, p = .computed (.int n)) ∧ ∃ o, .count o ∈ s.parts
  have hnodes : (ofRows (g.nodes.map .atNode)).All (Row.Within P) fun _ => True := by
    refine All.ofRows fun r hr => ?_
    obtain ⟨id, -, rfl⟩ := List.mem_map.1 hr
    exact .atNode (.inl ⟨id, rfl⟩)
  rw [items_of_prepare h] at hr
  have hwithin : r.Within P :=
    within_meaning (fun id => .inl ⟨id, rfl⟩) (fun o n ho => .inr ⟨⟨n, rfl⟩, o, ho⟩) hnodes _ hr
  exact hwithin.position

end Step

end QuadWalk
