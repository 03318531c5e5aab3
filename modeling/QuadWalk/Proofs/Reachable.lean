import QuadWalk.Proofs.Outcomes
import QuadWalk.Proofs.TagMap

/-!
# Nodes that rows can reach

A row has places: where it is, under its tags and in its trail. `Row.Within P` says that all of them
have a property, and `Row.On N` that those of them that are nodes are nodes of a set. `Graph.Serves N
F` says of a graph that whatever it answers about the nodes of a set `N` are nodes of `N` again, and
that it answers with faults of a set `F` only. Then no walk leaves `N`: every operation of a graph on
a row keeps `Row.On N`, or whatever else is asked of places that nodes have exactly if they are in
`N`, and fails with faults of `F` only.

Every graph serves all nodes with all faults; a store serves its own nodes with none.
-/

namespace QuadWalk

/-- The graph leads from nodes of a set to such nodes only, with faults of another set only. -/
structure Graph.Serves (g : Graph) (N : NodeId → Prop) (F : StoreError → Prop) : Prop where
  nodes : ∀ id ∈ g.nodes, N id
  lookup : ∀ {v : Value} {id : NodeId}, g.lookup v = some id → N id
  valueOf : ∀ {id : NodeId}, N id → Yields (fun _ => True) F (g.valueOf id)
  neighbors : ∀ {id : NodeId} (predicates : NodeSet) (d : Direction), N id →
    Yields (fun ids => ∀ i ∈ ids, N i) F (g.neighbors id predicates d)
  predicates : ∀ {id : NodeId} (d : Direction), N id →
    Yields (fun ids => ∀ i ∈ ids, N i) F (g.predicates id d)

/-- Every graph serves all nodes, with whatever faults it has. -/
theorem Graph.serves_all (g : Graph) : g.Serves (fun _ => True) fun _ => True where
  nodes := fun _ _ => trivial
  lookup := fun _ => trivial
  valueOf := by
    intro id _
    cases g.valueOf id <;> trivial
  neighbors := by
    intro id predicates d _
    cases g.neighbors id predicates d with
    | ok ids => exact fun _ _ => trivial
    | error e => trivial
  predicates := by
    intro id d _
    cases g.predicates id d with
    | ok ids => exact fun _ _ => trivial
    | error e => trivial

/-- The graph in which no value is found. Otherwise it answers as before. -/
def Graph.withoutLookup (g : Graph) : Graph := { g with lookup := fun _ => none }

/-- All places of a row have a property. -/
structure Row.Within (P : Position → Prop) (r : Row) : Prop where
  position : P r.position
  tags : ∀ t p, r.tags.find? t = some p → P p
  trail : ∀ p ∈ r.trail, P p

/-- A place is at a computed value or at a node of a set. -/
def Position.On (N : NodeId → Prop) (p : Position) : Prop := ∀ id, p.node? = some id → N id

/-- All places of a row are at computed values or at nodes of a set. -/
structure Row.On (N : NodeId → Prop) (r : Row) : Prop where
  position : r.position.On N
  tags : ∀ t p, r.tags.find? t = some p → p.On N
  trail : ∀ p ∈ r.trail, p.On N

variable {P : Position → Prop} {N : NodeId → Prop} {F : StoreError → Prop} {E : QueryError → Prop}
  {g : Graph} {r : Row}

/-! ### Rows whose places have a property -/

namespace Row.Within

/-- A row that has only its place. -/
theorem start {p : Position} (h : P p) : Row.Within P { position := p } where
  position := h
  tags := by simp
  trail := by simp

theorem atNode {id : NodeId} (h : P (.stored id)) : (Row.atNode id).Within P := .start h

theorem moveTo (h : r.Within P) {id : NodeId} (hid : P (.stored id)) : (r.moveTo id).Within P where
  position := hid
  tags := h.tags
  trail := List.forall_mem_cons.2 ⟨h.position, h.trail⟩

theorem insert (h : r.Within P) {tag : String} {p : Position} (hp : P p) :
    Row.Within P { r with tags := r.tags.insert tag p } where
  position := h.position
  tags := by
    intro t q hq
    rw [TagMap.find?_insert] at hq
    split at hq
    · cases hq
      exact hp
    · exact h.tags t q hq
  trail := h.trail

theorem bind (h : r.Within P) {tag : String} {id : NodeId} (hid : P (.stored id)) :
    (r.bind tag id).Within P :=
  h.insert hid

theorem mark (h : r.Within P) (tag : String) : (r.mark tag).Within P := h.insert h.position

theorem back? (h : r.Within P) {r' : Row} (hr : r.back? = some r') : r'.Within P := by
  unfold Row.back? at hr
  split at hr
  · simp at hr
  · rename_i p trail htrail
    cases hr
    have hplaces := h.trail
    rw [htrail] at hplaces
    exact ⟨hplaces p List.mem_cons_self, h.tags,
      fun q hq => hplaces q (List.mem_cons_of_mem _ hq)⟩

theorem backTo? (h : r.Within P) {r' : Row} {tag : String} (hr : r.backTo? tag = some r') :
    r'.Within P := by
  obtain ⟨p, hp, rfl⟩ := Option.map_eq_some_iff.1 hr
  exact ⟨h.tags tag p hp, h.tags, by simp⟩

/-- Places keep the property when tags of another such row are laid over those of a row. -/
theorem overlay {tags : TagMap Position} {m : Row} (h : Row.Within P { r with tags })
    (hm : m.Within P) : Row.Within P { r with tags := tags.overlay m.tags } where
  position := h.position
  tags := by
    intro t p hp
    rw [TagMap.find?_overlay] at hp
    cases ht : m.tags.find? t with
    | some q =>
      rw [ht, Option.some_or] at hp
      cases hp
      exact hm.tags t _ ht
    | none =>
      rw [ht, Option.none_or] at hp
      exact h.tags t p hp
  trail := h.trail

end Row.Within

/-! ### Rows on nodes of a set -/

theorem Position.on_stored {id : NodeId} : (Position.stored id).On N ↔ N id := by
  simp [Position.On, Position.node?]

theorem Position.On.computed (v : Value) : (Position.computed v).On N := nofun

namespace Row.On

theorem iff_within : r.On N ↔ r.Within (Position.On N) :=
  ⟨fun h => ⟨h.position, h.tags, h.trail⟩, fun h => ⟨h.position, h.tags, h.trail⟩⟩

/-- Whatever the tags of the row are bound to is on the set. -/
theorem entries (h : r.On N) : ∀ e ∈ r.tags.entries, e.2.On N :=
  fun e he => h.tags e.1 e.2 (TagMap.find?_of_mem_entries he)

theorem atNode {id : NodeId} (h : N id) : (Row.atNode id).On N :=
  iff_within.2 (.atNode (Position.on_stored.2 h))

theorem computed (v : Value) : Row.On N { position := .computed v } :=
  iff_within.2 (.start (.computed v))

theorem mark (h : r.On N) (tag : String) : (r.mark tag).On N :=
  iff_within.2 ((iff_within.1 h).mark tag)

theorem back? (h : r.On N) {r' : Row} (hr : r.back? = some r') : r'.On N :=
  iff_within.2 ((iff_within.1 h).back? hr)

theorem backTo? (h : r.On N) {r' : Row} {tag : String} (hr : r.backTo? tag = some r') :
    r'.On N :=
  iff_within.2 ((iff_within.1 h).backTo? hr)

/-- A row keeps to the set when tags of another such row are laid over its own. -/
theorem overlay {tags : TagMap Position} {m : Row} (h : Row.On N { r with tags }) (hm : m.On N) :
    Row.On N { r with tags := tags.overlay m.tags } :=
  iff_within.2 ((iff_within.1 h).overlay (iff_within.1 hm))

end Row.On

/-! ### What a graph does with a row -/

theorem Yields.ofStore {α : Type} {P : α → Prop} {x : Except StoreError α} (h : Yields P F x)
    (hE : ∀ f, F f → E (.storeFault f)) : Yields P E (ofStore x) := by
  cases x with
  | ok a => exact h
  | error f => exact hE f h

/-- Rows are on nodes of a set if their places are. -/
theorem Yields.on_of_within {x : Except QueryError (List Row)}
    (h : Yields (fun rows => ∀ r' ∈ rows, r'.Within (Position.On N)) E x) :
    Yields (fun rows => ∀ r' ∈ rows, r'.On N) E x :=
  h.mono (fun _ hrows r' hr' => Row.On.iff_within.2 (hrows r' hr')) fun _ he => he

namespace Graph.Serves

variable (hg : g.Serves N F) (hE : ∀ f, F f → E (.storeFault f))

include hg in
theorem lookupAll {values : List Value} {id : NodeId} (h : id ∈ g.lookupAll values) : N id := by
  obtain ⟨v, -, hv⟩ := List.mem_filterMap.1 h
  exact hg.lookup hv

include hg hE

theorem valueAt {p : Position} (hp : p.On N) : Yields (fun _ => True) E (g.valueAt p) := by
  cases p with
  | stored id => exact (hg.valueOf (hp id rfl)).ofStore hE
  | computed v => trivial

/-! If the nodes of the set are those at which the places of a row may be, then no operation leads
to a place without the property. -/

section Within

variable (hP : ∀ {id : NodeId}, P (.stored id) ↔ N id) (hr : r.Within P)

include hP hr

omit hg hE in
theorem node_of_within {id : NodeId} (h : r.position.node? = some id) : N id := by
  have hposition := hr.position
  cases hp : r.position with
  | stored i =>
    rw [hp] at h hposition
    cases h
    exact hP.1 hposition
  | computed v => simp [hp, Position.node?] at h

theorem walk_within (t : Traversal) (predicates : NodeSet) :
    Yields (fun rows => ∀ r' ∈ rows, r'.Within P) E (g.walk t predicates r) := by
  unfold Graph.walk
  split
  · exact fun _ h => absurd h List.not_mem_nil
  · rename_i id hid
    have hreached : Yields (fun reached => ∀ ids ∈ reached, ∀ i ∈ ids, N i) E
        (t.directions.mapM fun d => QuadWalk.ofStore (g.neighbors id predicates d)) :=
      Yields.mapM fun d _ => (hg.neighbors predicates d (node_of_within hP hr hid)).ofStore hE
    refine hreached.bind fun reached hreached r' hr' => ?_
    obtain ⟨i, hi, rfl⟩ := List.mem_map.1 hr'
    obtain ⟨ids, hids, hi⟩ := List.mem_flatten.1 hi
    exact hr.moveTo (hP.2 (hreached ids hids i hi))

theorem walkToPredicates_within (d : Direction) :
    Yields (fun rows => ∀ r' ∈ rows, r'.Within P) E (g.walkToPredicates d r) := by
  unfold Graph.walkToPredicates
  split
  · exact fun _ h => absurd h List.not_mem_nil
  · rename_i id hid
    refine ((hg.predicates d (node_of_within hP hr hid)).ofStore hE).map fun ids hids r' hr' => ?_
    obtain ⟨i, hi, rfl⟩ := List.mem_map.1 hr'
    exact hr.moveTo (hP.2 (hids i hi))

theorem save_within (d : Direction) (predicates : NodeSet) (tag : String) :
    Yields (fun rows => ∀ r' ∈ rows, r'.Within P) E (g.save d predicates tag r) := by
  unfold Graph.save
  split
  · exact fun _ h => absurd h List.not_mem_nil
  · rename_i id hid
    refine ((hg.neighbors predicates d (node_of_within hP hr hid)).ofStore hE).map
      fun ids hids r' hr' => ?_
    obtain ⟨i, hi, rfl⟩ := List.mem_map.1 hr'
    exact hr.bind (hP.2 (hids i hi))

theorem savePredicates_within (d : Direction) (tag : String) :
    Yields (fun rows => ∀ r' ∈ rows, r'.Within P) E (g.savePredicates d tag r) := by
  unfold Graph.savePredicates
  split
  · exact fun _ h => absurd h List.not_mem_nil
  · rename_i id hid
    refine ((hg.predicates d (node_of_within hP hr hid)).ofStore hE).map fun ids hids r' hr' => ?_
    obtain ⟨i, hi, rfl⟩ := List.mem_map.1 hr'
    exact hr.bind (hP.2 (hids i hi))

end Within

theorem walk (hr : r.On N) (t : Traversal) (predicates : NodeSet) :
    Yields (fun rows => ∀ r' ∈ rows, r'.On N) E (g.walk t predicates r) :=
  (hg.walk_within hE Position.on_stored (Row.On.iff_within.1 hr) t predicates).on_of_within

theorem walkToPredicates (hr : r.On N) (d : Direction) :
    Yields (fun rows => ∀ r' ∈ rows, r'.On N) E (g.walkToPredicates d r) :=
  (hg.walkToPredicates_within hE Position.on_stored (Row.On.iff_within.1 hr) d).on_of_within

theorem save (hr : r.On N) (d : Direction) (predicates : NodeSet) (tag : String) :
    Yields (fun rows => ∀ r' ∈ rows, r'.On N) E (g.save d predicates tag r) :=
  (hg.save_within hE Position.on_stored (Row.On.iff_within.1 hr) d predicates tag).on_of_within

theorem savePredicates (hr : r.On N) (d : Direction) (tag : String) :
    Yields (fun rows => ∀ r' ∈ rows, r'.On N) E (g.savePredicates d tag r) :=
  (hg.savePredicates_within hE Position.on_stored (Row.On.iff_within.1 hr) d tag).on_of_within

theorem reaches (hr : r.On N) (d : Direction) (predicates targets : NodeSet) :
    Yields (fun _ => True) E (g.reaches d predicates targets r) := by
  unfold Graph.reaches
  split
  · trivial
  · rename_i id hid
    exact ((hg.neighbors predicates d (hr.position id hid)).ofStore hE).map fun _ _ => trivial

theorem passes (hr : r.On N) (m : TextMatcher) : Yields (fun _ => True) E (g.passes m r) :=
  (hg.valueAt hE hr.position).map fun _ _ => trivial

end Graph.Serves

end QuadWalk
