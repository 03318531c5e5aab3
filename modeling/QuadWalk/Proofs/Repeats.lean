import Mathlib.Data.Fintype.Card
import QuadWalk.Proofs.Places
import QuadWalk.Proofs.Rows

/-!
# Values that are reported twice

A unique step keeps the first row at each place. Different nodes have different values, but a number
that was counted is at no node, even if some node has it as its value. So what a unique step reports
may have a value twice, and this is how: the value is a number, one row is at its node, and another
one has counted it (`Step.count_values_of_unique`). A query that counts nothing reports each value
once.
-/

namespace QuadWalk

/-! ### Places with one value -/

/-- Among some places a number is met twice: at the node that has it as its value, and as a value
that was computed. -/
def Graph.MeetsTwice (g : Graph) (places : List Position) (n : Int64) : Prop :=
  (∃ id, .stored id ∈ places ∧ g.valueOf id = .ok (.int n)) ∧ .computed (.int n) ∈ places

namespace QuadStore

variable {store : QuadStore} {places : List Position} {values : List Value} {v : Value}

/-- The places that have a value. -/
def placesOf (store : QuadStore) (places : List Position) (v : Value) : List Position :=
  places.filter fun p => (store.graph.valueAt p).toOption = some v

theorem mem_placesOf {p : Position} :
    p ∈ store.placesOf places v ↔ p ∈ places ∧ store.graph.valueAt p = .ok v := by
  rw [placesOf, List.mem_filter, decide_eq_true_eq]
  exact and_congr_right fun _ => ⟨eq_ok_of_toOption, fun h => by rw [h]; rfl⟩

/-- A value occurs as often as there are places that have it. -/
theorem count_eq_length (h : places.map store.graph.valueAt = values.map .ok) :
    values.count v = (store.placesOf places v).length := by
  induction places generalizing values with
  | nil =>
    obtain rfl : values = [] := by simpa using h.symm
    rfl
  | cons p places ih =>
    obtain ⟨w, values, rfl, hp, hrest⟩ := List.map_eq_cons_iff.1 h.symm
    rw [List.count_cons, ih hrest.symm, placesOf, placesOf, List.filter_cons, ← hp]
    by_cases hw : w = v <;> simp [hw, Except.toOption]

/-- Places with one value are the same if both are nodes, or both were computed. -/
theorem eq_of_valueAt_eq {p p' : Position} (hp : store.graph.valueAt p = .ok v)
    (hp' : store.graph.valueAt p' = .ok v) (h : p.node?.isSome = p'.node?.isSome) : p = p' := by
  cases p with
  | stored i =>
    cases p' with
    | stored j =>
      rw [valueOf_inj (Graph.valueAt_stored_eq_ok.1 hp) (Graph.valueAt_stored_eq_ok.1 hp')]
    | computed w => cases h
  | computed w =>
    cases p' with
    | stored j => cases h
    | computed w' =>
      rw [Graph.valueAt_computed_eq_ok.1 hp, Graph.valueAt_computed_eq_ok.1 hp']

section Nodup

variable (hvalues : places.map store.graph.valueAt = values.map .ok) (hnodup : places.Nodup)

include hvalues hnodup

/-- Of different places, no more than two have one value. -/
theorem count_le_two (v : Value) : values.count v ≤ 2 := by
  rw [count_eq_length hvalues]
  have hkinds : ((store.placesOf places v).map fun p => p.node?.isSome).Nodup := by
    refine (hnodup.filter _).map_on fun p hp p' hp' heq => ?_
    exact eq_of_valueAt_eq (mem_placesOf.1 hp).2 (mem_placesOf.1 hp').2 heq
  have hle := hkinds.length_le_card
  rwa [List.length_map, Fintype.card_bool] at hle

variable (hnumbers : ∀ p ∈ places, (∃ id, p = .stored id) ∨ ∃ n, p = .computed (.int n))

include hnumbers

/-- Of different places, two have one value exactly if that is a number that is met twice. -/
theorem count_eq_two_iff :
    values.count v = 2 ↔ ∃ n, v = .int n ∧ store.graph.MeetsTwice places n := by
  constructor
  · intro h
    rw [count_eq_length hvalues] at h
    obtain ⟨p, p', hat⟩ := List.length_eq_two.1 h
    have hne : p ≠ p' := by
      have hboth : [p, p'].Nodup := hat ▸ hnodup.filter _
      simpa using hboth
    obtain ⟨hp, hv⟩ := mem_placesOf.1 (show p ∈ store.placesOf places v by simp [hat])
    obtain ⟨hp', hv'⟩ := mem_placesOf.1 (show p' ∈ store.placesOf places v by simp [hat])
    rcases hnumbers p hp with ⟨i, rfl⟩ | ⟨n, rfl⟩ <;> rcases hnumbers p' hp' with ⟨j, rfl⟩ | ⟨m, rfl⟩
    · exact absurd (eq_of_valueAt_eq hv hv' rfl) hne
    · obtain rfl := Graph.valueAt_computed_eq_ok.1 hv'
      exact ⟨m, rfl, ⟨i, hp, Graph.valueAt_stored_eq_ok.1 hv⟩, hp'⟩
    · obtain rfl := Graph.valueAt_computed_eq_ok.1 hv
      exact ⟨n, rfl, ⟨j, hp', Graph.valueAt_stored_eq_ok.1 hv'⟩, hp⟩
    · exact absurd (eq_of_valueAt_eq hv hv' rfl) hne
  · rintro ⟨n, rfl, ⟨id, hid, hvalue⟩, hn⟩
    have hsub : [.stored id, .computed (.int n)] ⊆ store.placesOf places (.int n) := by
      intro p hp
      rcases List.mem_pair.1 hp with rfl | rfl
      · exact mem_placesOf.2 ⟨hid, Graph.valueAt_stored_eq_ok.2 hvalue⟩
      · exact mem_placesOf.2 ⟨hn, rfl⟩
    have hle := (List.Nodup.subperm (by simp) hsub).length_le
    refine Nat.le_antisymm (count_le_two hvalues hnodup _) ?_
    rwa [count_eq_length hvalues]

/-- Different places have different values exactly if no number is met twice. -/
theorem nodup_values_iff : values.Nodup ↔ ∀ n, ¬ store.graph.MeetsTwice places n := by
  rw [List.nodup_iff_count_le_one]
  constructor
  · intro hone n hn
    have htwo := (count_eq_two_iff hvalues hnodup hnumbers).2 ⟨n, rfl, hn⟩
    have := hone (.int n)
    omega
  · intro hnone v
    have hne : values.count v ≠ 2 := by
      intro heq
      obtain ⟨n, -, hn⟩ := (count_eq_two_iff hvalues hnodup hnumbers).1 heq
      exact hnone n hn
    have := count_le_two hvalues hnodup v
    omega

end Nodup

end QuadStore

/-! ### Unique steps -/

namespace Items

variable {items : Items} {rows : List Row}

/-- Without errors, the rows of a unique step are at different places. -/
theorem nodup_of_lists_unique (h : Lists (unique items) rows) :
    (rows.map (·.position)).Nodup := by
  unfold unique at h
  cases hall : rows? items with
  | error e =>
    rw [hall] at h
    exact absurd h not_lists_error
  | ok all =>
    rw [hall] at h
    obtain rfl := lists_ofRows_iff.1 h
    rw [LazyList.toList_distinct, LazyList.toList_ofList]
    refine List.pairwise_map.2 (pairwise_eraseDupsBy.imp fun {r r'} hr heq => ?_)
    simp [LazyList.sameKey, heq] at hr

end Items

/-- Without errors, the answers are the values at the places of the rows. -/
theorem Graph.exists_of_answers_values {g : Graph} {items : Unit → Items} {answers : List Answer}
    (h : (g.answers .values items).toList = answers.map .ok) :
    ∃ (rows : List Row) (values : List Value), (items ()).Lists rows ∧
      rows.map (g.valueAt ·.position) = values.map .ok ∧ answers = values.map .value := by
  simp only [Graph.answers, answerEach, LazyList.toList_map] at h
  unfold Items.Lists
  generalize (items ()).toList = l at h ⊢
  induction l generalizing answers with
  | nil =>
    obtain rfl : answers = [] := by simpa using h.symm
    exact ⟨[], [], rfl, rfl, rfl⟩
  | cons item l ih =>
    obtain ⟨a, answers, rfl, hitem, hrest⟩ := List.map_eq_cons_iff.1 h.symm
    obtain ⟨rows, values, rfl, hvalues, rfl⟩ := ih hrest.symm
    obtain ⟨r, rfl, hr⟩ := bind_ok_iff.1 hitem.symm
    obtain ⟨v, hv, rfl⟩ := map_ok_iff.1 hr
    exact ⟨r :: rows, v :: values, rfl, by rw [List.map_cons, hv, hvalues, List.map_cons], rfl⟩

namespace Step

/-- **What a unique step reports has no value more than twice, and twice only a number that is at a
node and was counted, too.** For any query with a unique step at its root that is run without
errors on any store, its rows are at different places, and the answers are the values there. A value
is among them twice exactly if it is a number that the rows meet twice; so they are all different
exactly if there is none, and certainly if the query counts nothing. -/
theorem count_values_of_unique {o : Step} {settings : Settings} {q : PreparedQuery}
    (h : (unique o).prepare settings = .ok q) {store : QuadStore} {answers : List Answer}
    (hrun : (q.answers store.graph).toList = answers.map .ok) :
    ∃ (rows : List Row) (values : List Value), (q.items store.graph).Lists rows ∧
      rows.map (store.graph.valueAt ·.position) = values.map .ok ∧
      answers = values.map .value ∧
      let places := rows.map (·.position)
      places.Nodup ∧ (∀ v, values.count v ≤ 2) ∧
        (∀ v, values.count v = 2 ↔ ∃ n, v = .int n ∧ store.graph.MeetsTwice places n) ∧
        (values.Nodup ↔ ∀ n, ¬ store.graph.MeetsTwice places n) ∧
        ((∀ p, .count p ∉ o.parts) → values.Nodup) := by
  obtain ⟨_, _, _, -, hshape, -⟩ := plans_of_prepare h
  rw [PreparedQuery.answers, hshape] at hrun
  obtain ⟨rows, values, hrows, hvalues, rfl⟩ := Graph.exists_of_answers_values hrun
  have hnodup : (rows.map (·.position)).Nodup := by
    have hunique := hrows
    rw [items_of_prepare h] at hunique
    exact Items.nodup_of_lists_unique hunique
  have hplace (r : Row) (hr : r ∈ rows) := place_of_prepare h (hrows.mem_iff.2 hr)
  have hnumbers : ∀ p ∈ rows.map (·.position),
      (∃ id, p = .stored id) ∨ ∃ n, p = .computed (.int n) := by
    intro p hp
    obtain ⟨r, hr, rfl⟩ := List.mem_map.1 hp
    exact (hplace r hr).imp_right And.left
  have hat : (rows.map (·.position)).map store.graph.valueAt = values.map .ok := by
    rw [List.map_map]
    exact hvalues
  have honce := QuadStore.nodup_values_iff hat hnodup hnumbers
  refine ⟨rows, values, hrows, hvalues, rfl, hnodup, QuadStore.count_le_two hat hnodup,
    fun v => QuadStore.count_eq_two_iff hat hnodup hnumbers, honce, fun hcount => ?_⟩
  refine honce.2 fun n hn => ?_
  obtain ⟨r, hr, hposition⟩ := List.mem_map.1 hn.2
  rcases hplace r hr with ⟨id, hid⟩ | ⟨-, p, hp⟩
  · simp [hid] at hposition
  · exact hcount p ((List.mem_cons.1 hp).resolve_left nofun)

/-- The number three, and how many nodes there are. -/
def threeTwice : Step := .unique (.combine .union (.vertex [.int 3]) [.count (.vertex [])])

/-- What it is prepared to. -/
def threeTwiceQuery : PreparedQuery where
  plan := .unique (.union (.fixed [.int 3]) [.count .allNodes])
  shape := .values
  tags := []

/-- A store with three nodes, one of which is the number three. -/
def threeNodes : QuadStore :=
  .ofQuads [{ subject := .iri "alice", predicate := .iri "age", object := .int 3 }]

theorem answers_threeTwice : (threeTwiceQuery.answers threeNodes.graph).toList =
    [.value (.int 3), .value (.int 3)].map .ok := by
  refine eq_map_ok_of_toOption ?_
  simp only [threeTwiceQuery, PreparedQuery.answers, PreparedQuery.items, Graph.answers,
    Graph.answerEach, Plan.items, Items.unique, Items.distinct, Items.rows?, LazyList.traverse_eq,
    LazyList.toList_map, LazyList.toList_distinct]
  decide +kernel

/-- The number three is at its node, and it is counted. -/
theorem count_values_of_unique_threeTwice :
    threeTwice.prepare {} = .ok threeTwiceQuery ∧
    (threeTwiceQuery.answers threeNodes.graph).toList =
      [.value (.int 3), .value (.int 3)].map .ok ∧
    ∃ rows, (threeTwiceQuery.items threeNodes.graph).Lists rows ∧
      threeNodes.graph.MeetsTwice (rows.map (·.position)) 3 := by
  have hprepare : threeTwice.prepare {} = .ok threeTwiceQuery := rfl
  obtain ⟨rows, values, hrows, -, hanswers, -, -, htwo, -⟩ :=
    count_values_of_unique hprepare answers_threeTwice
  obtain rfl : values = [.int 3, .int 3] := by
    refine List.map_injective_iff.2 (fun _ _ => Answer.value.inj) (hanswers.symm.trans ?_)
    rfl
  obtain ⟨n, hn, hmeets⟩ := (htwo (.int 3)).1 rfl
  cases hn
  exact ⟨hprepare, answers_threeTwice, rows, hrows, hmeets⟩

/-- A query with a unique step at its root may report a value twice. -/
theorem not_nodup_of_unique :
    ¬ ∀ (o : Step) (settings : Settings) (q : PreparedQuery),
      (unique o).prepare settings = .ok q → ∀ (store : QuadStore) (answers : List Answer),
        (q.answers store.graph).toList = answers.map .ok → answers.Nodup := by
  intro h
  have hnodup := h (.combine .union (.vertex [.int 3]) [.count (.vertex [])]) {} threeTwiceQuery rfl
    threeNodes [.value (.int 3), .value (.int 3)] answers_threeTwice
  simp at hnodup

end Step

end QuadWalk
