import QuadWalk.Proofs.Places
import QuadWalk.Proofs.Rows

/-!
# Membership by value and by place

Which rows are at one of some values can be asked in two ways. `Is` looks at the values of rows, and
an intersection with the vertices of these values looks at their places. The two agree on rows at
nodes, because a node is a vertex of the values exactly if it has one of them. They do not agree on
rows at computed values, which are at no vertex: of these an intersection keeps none.

`Step.intersect_vertex` says so of queries, errors included.
-/

namespace QuadWalk

/-! ### Tests of rows -/

namespace Items

/-- Whether an item is left when rows are tested: an error is in any case. -/
def survives (test : Row → Bool) : Item → Bool
  | .ok r => test r
  | .error _ => true

theorem toList_keep_ok (test : Row → Bool) (items : Items) :
    (keep (fun r => .ok (test r)) items).toList = items.toList.filter (survives test) := by
  rw [keep, expand, LazyList.toList_flatMap]
  induction items.toList with
  | nil => rfl
  | cons item l ih =>
    rw [List.flatMap_cons, ih]
    cases item with
    | error e => rfl
    | ok r => cases ht : test r <;> simp [Except.map, survives, ht]

/-- An intersection with nodes keeps the rows at one of them. -/
theorem toList_siftBy_nodes (ids : List NodeId) (items : Unit → Items) :
    (siftBy true [fun _ => ofRows (ids.map .atNode)] items).toList =
      (items ()).toList.filter (survives fun r => r.position.node?.any ids.contains) := by
  have hsets : ([fun _ => ofRows (ids.map .atNode)].mapM fun branch => positions? (branch ())) =
      .ok [.ofList ((ids.map Row.atNode).map (·.position))] := by
    rw [List.mapM_cons, positions?_eq_ok (lists_ofRows_iff.2 rfl)]
    rfl
  have hplace (p : Position) : ((ids.map Row.atNode).map (·.position)).contains p =
      p.node?.any ids.contains := by
    rw [Bool.eq_iff_iff, List.contains_iff_mem]
    cases p <;> simp [Row.atNode, Position.node?]
  rw [siftBy, hsets, drain, sift, toList_keep_ok]
  simp only [if_true, List.all_cons, List.all_nil, Bool.and_true, Std.HashSet.contains_ofList, hplace]

/-- An intersection with the vertices of values keeps the rows that are at one of the values, less
those at computed values. -/
theorem toList_siftBy_lookupAll (g : Graph) (values : List Value) (items : Items) :
    (siftBy true [fun _ => ofRows ((g.lookupAll values).map .atNode)] fun _ => items).toList =
      (isOneOf (.ofList (g.lookupAll values)) values items).toList.filter
        (survives fun r => r.position.node?.isSome) := by
  rw [toList_siftBy_nodes, isOneOf, toList_keep_ok, List.filter_filter]
  refine List.filter_congr fun item _ => ?_
  cases item with
  | error e => rfl
  | ok r => cases hp : r.position <;> simp [survives, hp, Position.node?, NodeSet.ofList]

end Items

/-! ### Queries -/

namespace Step

open Items Planner

theorem shape_of_values {s : Step} (h : s.shape.2 = .values) : s.shape = (s, .values) := by
  cases s with
  | select | selectFirst | documents => simp [shape] at h
  | _ => rfl

section Plan

variable {sizeLimit : Nat} {o : Step} {e : Bindings} {k m : Supply} {p : Planned}
  {values : List Value} (h : o.plan sizeLimit e k = .ok (p, m)) (hvalues : values ≠ [])

include h hvalues

theorem plan_isOneOf : (isOneOf o values).plan sizeLimit e k =
    .ok (⟨m.ref (.isOneOf p.ref.plan values), p.bindings⟩, m.afterPlan) := by
  simp only [plan, bind_eq_ok, require_eq_ok, planned_eq_ok]
  exact ⟨(), k, ⟨by simpa using hvalues, rfl⟩, p, m, h, rfl, rfl⟩

theorem plan_intersect_vertex : ∃ p' m',
    (combine .intersect o [vertex values]).plan sizeLimit e k = .ok (p', m') ∧
      p'.bindings = p.bindings := by
  have hempty : values.isEmpty = false := by simpa using hvalues
  simp only [plan, planEach, bind_eq_ok, require_eq_ok, planned_eq_ok, pure_eq_ok]
  exact ⟨_, _, ⟨p, m, h, (), m, ⟨rfl, rfl⟩, _, _, ⟨_, _, ⟨rfl, rfl⟩, _, _, ⟨rfl, rfl⟩, rfl, rfl⟩, rfl,
    rfl⟩, rfl⟩

end Plan

variable {o : Step} {settings : Settings} {q is common : PreparedQuery} {values : List Value}

/-- The rows that have one of the values, on any graph. -/
theorem items_isOneOf (h : o.prepare settings = .ok q)
    (his : (isOneOf o values).prepare settings = .ok is) (g : Graph) :
    is.items g = Items.isOneOf (.ofList (g.lookupAll values)) values (q.items g) := by
  rw [items_of_prepare his, items_of_prepare h, meaning]

/-- The rows at the vertices of the values are those that have one of the values, less those at
computed values. -/
theorem items_intersect_vertex (hvalues : values ≠ []) (h : o.prepare settings = .ok q)
    (his : (isOneOf o values).prepare settings = .ok is)
    (hcommon : (combine .intersect o [vertex values]).prepare settings = .ok common) (g : Graph) :
    (common.items g).toList =
      (is.items g).toList.filter (survives fun r => r.position.node?.isSome) := by
  have hempty : ¬ values.isEmpty = true := by simpa using hvalues
  rw [items_isOneOf h his, ← toList_siftBy_lookupAll, items_of_prepare hcommon, items_of_prepare h,
    meaning, meaningEach, meaningEach, meaning, if_neg hempty]

/-- None are left out exactly if no row is at a computed value that is one of the values. -/
theorem items_intersect_vertex_eq_iff (hvalues : values ≠ []) (h : o.prepare settings = .ok q)
    (his : (isOneOf o values).prepare settings = .ok is)
    (hcommon : (combine .intersect o [vertex values]).prepare settings = .ok common) (g : Graph) :
    (common.items g).toList = (is.items g).toList ↔
      ∀ r, .ok r ∈ (q.items g).toList → ∀ v ∈ values, r.position ≠ .computed v := by
  rw [items_intersect_vertex hvalues h his hcommon, List.filter_eq_self]
  constructor
  · intro hall r hr v hv hposition
    have hmem : .ok r ∈ (is.items g).toList := by
      rw [items_isOneOf h his, Items.isOneOf, mem_keep]
      exact ⟨hr, by simp [hposition, hv]⟩
    have hnode := hall _ hmem
    simp [survives, hposition, Position.node?] at hnode
  · intro hnone item hitem
    cases item with
    | error e => rfl
    | ok r =>
      rw [items_isOneOf h his, Items.isOneOf, mem_keep] at hitem
      obtain ⟨hr, htest⟩ := hitem
      cases hposition : r.position with
      | stored id => simp [survives, hposition, Position.node?]
      | computed v =>
        have hv : v ∈ values := by simpa [hposition] using htest
        exact absurd hposition (hnone r hr v hv)

/-- On a store, these are the rows whose value is one of the values. -/
theorem mem_items_isOneOf (h : o.prepare settings = .ok q)
    (his : (isOneOf o values).prepare settings = .ok is) {store : QuadStore} {r : Row} :
    .ok r ∈ (is.items store.graph).toList ↔ .ok r ∈ (q.items store.graph).toList ∧
      ∃ v ∈ values, store.graph.valueAt r.position = .ok v := by
  rw [items_isOneOf h his, Items.isOneOf, mem_keep, Except.ok.injEq]
  refine and_congr_right fun _ => ?_
  cases r.position with
  | stored id => exact List.contains_iff_mem.trans QuadStore.mem_lookupAll
  | computed w => simp [Graph.valueAt_computed_eq_ok]

/-- **An intersection with the vertices of some values has the rows that are one of the values, less
those at computed values.** Wherever a query is accepted, and whatever it has on a graph, its rows
that are one of some values and its rows at the vertices of these values can be asked for, with the
same tags. Both are the same, in the same order and with the same errors, exactly if no row is at a
computed value that is one of the values, and certainly if the query counts nothing. On a store, a
row is one of the values if its value is. -/
theorem intersect_vertex (h : o.prepare settings = .ok q) (hshape : q.shape = .values)
    (hvalues : values ≠ []) :
    ∃ is common, (isOneOf o values).prepare settings = .ok is ∧
      (combine .intersect o [vertex values]).prepare settings = .ok common ∧
      is.shape = .values ∧ common.shape = .values ∧ is.tags = q.tags ∧ common.tags = q.tags ∧
      (∀ g : Graph,
        (common.items g).toList =
          (is.items g).toList.filter (survives fun r => r.position.node?.isSome) ∧
        ((common.items g).toList = (is.items g).toList ↔
          ∀ r, .ok r ∈ (q.items g).toList → ∀ v ∈ values, r.position ≠ .computed v) ∧
        ((∀ p, .count p ∉ o.parts) → (common.items g).toList = (is.items g).toList)) ∧
      ∀ (store : QuadStore) (r : Row), .ok r ∈ (is.items store.graph).toList ↔
        .ok r ∈ (q.items store.graph).toList ∧
          ∃ v ∈ values, store.graph.valueAt r.position = .ok v := by
  obtain ⟨p, m, hp, -, hq⟩ := prepare_eq_ok_iff.1 h
  have ho : o.shape = (o, .values) := shape_of_values (by rw [← hshape, hq])
  rw [ho] at hp
  obtain ⟨p', m', hp', hbindings⟩ := plan_intersect_vertex hp hvalues
  have his : (isOneOf o values).prepare settings =
      .ok ⟨.isOneOf p.ref.plan values, .values, p.bindings.names⟩ :=
    prepare_eq_ok_iff.2 ⟨_, _, plan_isOneOf hp hvalues, rfl, rfl⟩
  have hcommon : (combine .intersect o [vertex values]).prepare settings =
      .ok ⟨p'.ref.plan, .values, p.bindings.names⟩ :=
    prepare_eq_ok_iff.2 ⟨_, _, hp', rfl, by rw [← hbindings]; rfl⟩
  refine ⟨_, _, his, hcommon, rfl, rfl, by rw [hq], by rw [hq], fun g => ?_, fun store r =>
    mem_items_isOneOf h his⟩
  have hiff := items_intersect_vertex_eq_iff hvalues h his hcommon g
  refine ⟨items_intersect_vertex hvalues h his hcommon g, hiff, fun hcount => ?_⟩
  refine hiff.2 fun r hr v _ hposition => ?_
  rcases place_of_prepare h hr with ⟨id, hid⟩ | ⟨-, p, hp⟩
  · simp [hid] at hposition
  · exact hcount p hp

/-- A store with three nodes. -/
def likesBob : QuadStore := .ofQuads [.ofIris "alice" "likes" "bob" ""]

/-- All nodes, and how many there are. -/
def nodesAndCount : Step := .combine .union (.vertex []) [.count (.vertex [])]

/-- What it is prepared to. -/
def nodesAndCountQuery : PreparedQuery where
  plan := .union .allNodes [.count .allNodes]
  shape := .values
  tags := []

theorem items_nodesAndCount : (nodesAndCountQuery.items likesBob.graph).toList =
    [.atNode 0, .atNode 1, .atNode 2, { position := .computed (.int 3) }].map .ok := by
  refine eq_map_ok_of_toOption ?_
  simp only [nodesAndCountQuery, PreparedQuery.items, Plan.items, Items.distinct,
    LazyList.toList_distinct]
  decide +kernel

/-- The count is none of the values that are asked for, so both ways find the same rows. -/
theorem intersect_vertex_nodesAndCount :
    nodesAndCount.prepare {} = .ok nodesAndCountQuery ∧ nodesAndCountQuery.shape = .values ∧
    [Value.iri "alice", Value.int 4] ≠ [] ∧
    ∃ is common, (isOneOf nodesAndCount [.iri "alice", .int 4]).prepare {} = .ok is ∧
      (combine .intersect nodesAndCount [vertex [.iri "alice", .int 4]]).prepare {} = .ok common ∧
      (common.items likesBob.graph).toList = (is.items likesBob.graph).toList := by
  have hprepare : nodesAndCount.prepare {} = .ok nodesAndCountQuery := rfl
  have hshape : nodesAndCountQuery.shape = .values := rfl
  have hvalues : [Value.iri "alice", Value.int 4] ≠ [] := by simp
  obtain ⟨is, common, his, hcommon, -, -, -, -, hitems, -⟩ :=
    intersect_vertex hprepare hshape hvalues
  refine ⟨hprepare, hshape, hvalues, is, common, his, hcommon, ?_⟩
  refine (hitems likesBob.graph).2.1.2 fun r hr v hv => ?_
  rw [items_nodesAndCount] at hr
  revert r v
  simp [Row.atNode]

/-- How many nodes there are. -/
def nodeTotal : Step := .count (.vertex [])

/-- What it is prepared to. -/
def nodeTotalQuery : PreparedQuery where
  plan := .count .allNodes
  shape := .values
  tags := []

/-- The number of nodes is the value that is asked for, but it is at no vertex. -/
theorem not_same_of_intersect_vertex :
    ¬ ∀ (o : Step) (settings : Settings) (q : PreparedQuery) (values : List Value),
      o.prepare settings = .ok q → q.shape = .values → values ≠ [] →
      ∀ is common : PreparedQuery, (isOneOf o values).prepare settings = .ok is →
        (combine .intersect o [vertex values]).prepare settings = .ok common →
        ∀ (store : QuadStore) (rows : List Row),
          (q.items store.graph).toList = rows.map .ok →
            (common.items store.graph).toList = (is.items store.graph).toList := by
  intro h
  have hprepare : nodeTotal.prepare {} = .ok nodeTotalQuery := rfl
  have his : (isOneOf nodeTotal [.int 3]).prepare {} =
      .ok { nodeTotalQuery with plan := .isOneOf nodeTotalQuery.plan [.int 3] } := rfl
  have hcommon : (combine .intersect nodeTotal [vertex [.int 3]]).prepare {} =
      .ok { nodeTotalQuery with plan := .intersect nodeTotalQuery.plan [.fixed [.int 3]] } := rfl
  have hvalues : [Value.int 3] ≠ [] := by simp
  have hitems : (nodeTotalQuery.items likesBob.graph).toList =
      [{ position := .computed (.int 3) }].map .ok :=
    eq_map_ok_of_toOption (by decide +kernel)
  have hsame := h nodeTotal {} nodeTotalQuery [.int 3] hprepare rfl hvalues _ _ his hcommon likesBob
    _ hitems
  rw [items_intersect_vertex_eq_iff hvalues hprepare his hcommon, hitems] at hsame
  exact hsame { position := .computed (.int 3) } (by simp) (.int 3) (by simp) rfl

end Step

end QuadWalk
