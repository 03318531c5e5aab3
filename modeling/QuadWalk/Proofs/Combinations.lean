import Mathlib.Algebra.BigOperators.Group.List.Basic
import Mathlib.Data.List.Forall2
import QuadWalk.Proofs.Acceptance
import QuadWalk.Proofs.Meaning

/-!
# Combinations of values

Several properties are bound one after the other, each to the rows that the ones before it left, and
a row is left once for each value that it finds. So a row comes out once for each way to choose one
value of each property: the values of the first property vary slowest, and a value that is found
along several edges is chosen several times.

`Product` says what the rows are, without saying how they come about: the choices are those at the
places of a list of places, which has all of them, in lexicographic order. That the properties bind
one after the other makes `choices`, which is such a product (`product_choices`).
-/

namespace QuadWalk

/-! ### Choices -/

section Choices

variable {α : Type}

/-- All lists with one element of each of some lists, the first one varying slowest. -/
def choices : List (List α) → List (List α)
  | [] => [[]]
  | l :: ls => l.flatMap fun a => (choices ls).map (a :: ·)

/-- What stands at some places of some lists, one place of each. -/
def atPlaces (ls : List (List α)) (places : List Nat) : List (Option α) :=
  List.zipWith (fun l i => l[i]?) ls places

/-- **The product of some lists**: the lists with one element of each, one for each choice of the
places at which these stand, in the lexicographic order of the places. -/
def Product (ls all : List (List α)) : Prop :=
  ∃ places : List (List Nat), places.Pairwise (· < ·) ∧
    (∀ is, is ∈ places ↔ List.Forall₂ (fun i l => i < l.length) is ls) ∧
    all.map (List.map some) = places.map (atPlaces ls)

theorem mem_choices {ls : List (List α)} {as : List α} :
    as ∈ choices ls ↔ List.Forall₂ (fun a l => a ∈ l) as ls := by
  induction ls generalizing as with
  | nil => simp [choices]
  | cons l ls ih =>
    rw [choices, List.mem_flatMap, List.forall₂_cons_right_iff]
    simp only [List.mem_map, ih]
    constructor
    · rintro ⟨a, ha, as, has, rfl⟩
      exact ⟨a, as, ha, has, rfl⟩
    · rintro ⟨a, as, ha, has, rfl⟩
      exact ⟨a, ha, as, has, rfl⟩

theorem length_choices (ls : List (List α)) :
    (choices ls).length = (ls.map List.length).prod := by
  induction ls with
  | nil => rfl
  | cons l ls ih => simp [choices, List.length_flatMap, ih]

/-- If there is nothing to choose from in one of the lists, there is no choice. -/
theorem choices_eq_nil {ls : List (List α)} (h : [] ∈ ls) : choices ls = [] := by
  induction ls with
  | nil => cases h
  | cons l ls ih =>
    rw [choices]
    rcases List.mem_cons.1 h with rfl | h
    · rfl
    · simp [ih h]

/-- Choices from ascending lists ascend. -/
theorem pairwise_choices {ls : List (List Nat)} (h : ∀ l ∈ ls, l.Pairwise (· < ·)) :
    (choices ls).Pairwise (· < ·) := by
  induction ls with
  | nil => simp [choices]
  | cons l ls ih =>
    obtain ⟨hl, hls⟩ := List.forall_mem_cons.1 h
    rw [choices, List.pairwise_flatMap]
    refine ⟨fun a _ => ?_, hl.imp fun hab => ?_⟩
    · rw [List.pairwise_map]
      exact (ih hls).imp fun h => List.Lex.cons h
    · intro as has bs hbs
      obtain ⟨as, -, rfl⟩ := List.mem_map.1 has
      obtain ⟨bs, -, rfl⟩ := List.mem_map.1 hbs
      exact List.Lex.rel hab

/-- A choice of elements is what stands at a choice of places. -/
theorem map_some_choices (ls : List (List α)) :
    (choices ls).map (List.map some) =
      (choices (ls.map fun l => List.range l.length)).map (atPlaces ls) := by
  induction ls with
  | nil => rfl
  | cons l ls ih =>
    have hplaces : l.map some = (List.range l.length).map fun i => l[i]? := by
      refine List.ext_getElem (by simp) fun i hi _ => ?_
      simp at hi ⊢
    have hrest (a : Option α) :
        (choices (ls.map fun l => List.range l.length)).map (fun is => a :: atPlaces ls is) =
          (choices ls).map fun as => a :: as.map some := by
      have := congrArg (List.map (a :: ·)) ih.symm
      simpa [Function.comp_def] using this
    calc (choices (l :: ls)).map (List.map some)
        = (l.map some).flatMap fun a => (choices ls).map fun as => a :: as.map some := by
          simp [choices, List.map_flatMap, List.flatMap_map, Function.comp_def]
      _ = (List.range l.length).flatMap fun i =>
            (choices (ls.map fun l => List.range l.length)).map fun is =>
              l[i]? :: atPlaces ls is := by
          rw [hplaces, List.flatMap_map]
          simp only [hrest]
      _ = _ := by
          simp [choices, List.map_flatMap, Function.comp_def, atPlaces]

/-- **Choices with the first list varying slowest are the product.** -/
theorem product_choices (ls : List (List α)) : Product ls (choices ls) := by
  refine ⟨choices (ls.map fun l => List.range l.length), pairwise_choices ?_, fun is => ?_,
    map_some_choices ls⟩
  · intro l hl
    obtain ⟨l', -, rfl⟩ := List.mem_map.1 hl
    exact List.pairwise_lt_range
  · rw [mem_choices, List.forall₂_map_right_iff]
    simp only [List.mem_range]

end Choices

/-! ### What becomes of a row -/

/-- A row with tags bound to nodes, one after the other. -/
def Row.bindAll (r : Row) (names : List String) (ids : List NodeId) : Row :=
  { r with tags := (names.zip ids).foldl (fun tags b => tags.insert b.1 (.stored b.2)) r.tags }

namespace Graph

open Items

/-- The values that a property has at a node, one for each edge. -/
def valuesOf (g : Graph) (d : Direction) (id : NodeId) (name : String) :
    Except StoreError (List NodeId) :=
  g.neighbors id (.ofList (g.lookupAll [.iri name])) d

/-- What a row becomes when properties are bound one after the other. -/
def combine (g : Graph) (d : Direction) : List String → Row → List Item
  | [], r => [.ok r]
  | name :: names, r =>
    match g.save d (.ofList (g.lookupAll [.iri name])) name r with
    | .error e => [.error e]
    | .ok rows => rows.flatMap (combine g d names)

variable {g : Graph} {d : Direction} {names : List String} {r : Row}

/-- Binding properties one after the other replaces each row where it stands. -/
theorem toList_foldl_save (names : List String) (items : Items) :
    (names.foldl (fun items name =>
      expand (g.save d (.ofList (g.lookupAll [.iri name])) name) items) items).toList =
      items.toList.flatMap fun
        | .error e => [.error e]
        | .ok r => g.combine d names r := by
  induction names generalizing items with
  | nil =>
    rw [List.foldl_nil]
    conv_lhs => rw [← List.flatMap_singleton' items.toList]
    refine List.flatMap_congr fun item _ => ?_
    cases item <;> rfl
  | cons name names ih =>
    rw [List.foldl_cons, ih, expand, LazyList.toList_flatMap, List.flatMap_assoc]
    refine List.flatMap_congr fun item _ => ?_
    cases item with
    | error e => rfl
    | ok r =>
      simp only [combine]
      cases g.save d (.ofList (g.lookupAll [.iri name])) name r with
      | error e => rfl
      | ok rows => exact List.flatMap_map ..

/-- At a computed value nothing is found. -/
theorem combine_computed {v : Value} (hnames : names ≠ []) (hr : r.position = .computed v) :
    g.combine d names r = [] := by
  obtain ⟨name, names, rfl⟩ := List.exists_cons_of_ne_nil hnames
  simp [combine, save, hr, Position.node?]

/-- **At a node, there is one row for each choice of values.** -/
theorem combine_stored {id : NodeId} {ls : List (List NodeId)} (hr : r.position = .stored id)
    (h : names.map (g.valuesOf d id) = ls.map .ok) :
    g.combine d names r = (choices ls).map fun ids => .ok (r.bindAll names ids) := by
  induction names generalizing r ls with
  | nil =>
    obtain rfl : ls = [] := by simpa using h.symm
    rfl
  | cons name names ih =>
    obtain ⟨l, ls, rfl, hl, hls⟩ := List.map_eq_cons_iff.1 h.symm
    have hsave : g.save d (.ofList (g.lookupAll [.iri name])) name r =
        .ok (l.map (r.bind name)) := by
      rw [valuesOf] at hl
      simp [save, hr, Position.node?, ← hl, ofStore, Except.map]
    rw [combine, hsave, choices, List.map_flatMap]
    simp only [List.flatMap_map, List.map_map]
    refine List.flatMap_congr fun i _ => ?_
    exact ih (r := r.bind name i) hr hls.symm

end Graph

/-- A store knows the values of all properties at its nodes. -/
theorem QuadStore.exists_valuesOf {s : QuadStore} {id : NodeId} (h : id ∈ s.nodes) (d : Direction)
    (names : List String) :
    ∃ ls : List (List NodeId), names.map (s.graph.valuesOf d id) = ls.map .ok := by
  have hvalues (name : String) : ∃ l, s.graph.valuesOf d id name = .ok l := by
    simp [Graph.valuesOf, graph, neighbors, atNode, h]
  exact exists_map_eq_ok fun name _ => hvalues name

namespace Step

open Items

/-- **Properties yield the product of their values.** If a step is accepted, so is the binding of
any properties after it, in either direction; all their names are in scope then. On any graph, and
for all anchors, it replaces each row of the step where it stands and leaves errors as they are. A
row at a computed value is dropped. A row at a node becomes one row for each element of the product
of the values that the properties have there, in the order of the product; each is where the row is,
with its trail and with the names bound in their order. So there are as many as the product of the
numbers of values, and none if a property has no value. A store knows all values at its nodes. -/
theorem items_properties {o : Step} {sizeLimit : Nat} {e : Bindings} {n k : Supply} {po : Planned}
    (ho : o.plan sizeLimit e n = .ok (po, k)) (d : Direction) {names : List String}
    (hnames : names ≠ []) :
    ∃ p m, (properties d o names).plan sizeLimit e n = .ok (p, m) ∧
      (∀ name ∈ names, name ∈ p.bindings.names) ∧
      (∀ (g : Graph) (anchors : Anchors),
        (p.ref.plan.items g anchors).toList =
          (po.ref.plan.items g anchors).toList.flatMap fun
            | .error e => [.error e]
            | .ok r => g.combine d names r) ∧
      (∀ (g : Graph) (r : Row) (v : Value), r.position = .computed v →
        g.combine d names r = []) ∧
      (∀ (g : Graph) (r : Row) (id : NodeId) (ls : List (List NodeId)), r.position = .stored id →
        names.map (g.valuesOf d id) = ls.map .ok →
          (∃ all, Product ls all ∧
            g.combine d names r = all.map fun ids => .ok (r.bindAll names ids)) ∧
          (g.combine d names r).length = (ls.map List.length).prod ∧
          ([] ∈ ls → g.combine d names r = [])) ∧
      ∀ (s : QuadStore), ∀ id ∈ s.nodes,
        ∃ ls : List (List NodeId), names.map (s.graph.valuesOf d id) = ls.map .ok := by
  obtain ⟨p, m, saved⟩ := Planner.succeeds_saveEach d names po (n := k)
  have hplan : (properties d o names).plan sizeLimit e n = .ok (p, m) := by
    simp only [plan, Planner.bind_eq_ok, Planner.require_eq_ok]
    exact ⟨(), n, ⟨by simpa using hnames, rfl⟩, po, k, ho, saved⟩
  refine ⟨p, m, hplan, fun name hname => ?_, fun g anchors => ?_, fun g r v hr => ?_,
    fun g r id ls hr hls => ?_, fun s id hid => QuadStore.exists_valuesOf hid d names⟩
  · have hbinds : Binds po.bindings po.bindings.names := fun t => Bindings.mem_names_iff.symm
    rw [Bindings.mem_names_iff, hbinds.saveEach saved]
    exact List.mem_append_left _ hname
  · rw [items_saveEach saved, Graph.toList_foldl_save]
  · exact Graph.combine_computed hnames hr
  · rw [Graph.combine_stored hr hls, List.length_map, length_choices]
    exact ⟨⟨choices ls, product_choices ls, rfl⟩, rfl, fun hnil => by rw [choices_eq_nil hnil]; rfl⟩

/-- A store in which Alice likes two others. -/
def likesTwo : QuadStore :=
  .ofQuads [.ofIris "alice" "likes" "bob" "", .ofIris "alice" "likes" "carol" ""]

/-- Whom Alice likes, asked for twice under one name: four rows. -/
theorem items_properties_likesTwo : ∃ po k p m,
    (vertex [.iri "alice"]).plan 8 .root {} = .ok (po, k) ∧
    (properties .forward (vertex [.iri "alice"]) ["likes", "likes"]).plan 8 .root {} =
      .ok (p, m) ∧
    "likes" ∈ p.bindings.names ∧
    ∃ all, Product [[2, 3], [2, 3]] all ∧ all.length = 4 ∧
      (p.ref.plan.items likesTwo.graph []).toList =
        all.map fun ids => .ok ((Row.atNode 0).bindAll ["likes", "likes"] ids) := by
  have ho : (vertex [.iri "alice"]).plan 8 .root {} =
      .ok (⟨Supply.ref {} (.fixed [.iri "alice"]), .root⟩, Supply.afterPlan {}) := rfl
  obtain ⟨p, m, hplan, hnames, hitems, -, hstored, -⟩ :=
    items_properties ho .forward (show ["likes", "likes"] ≠ [] by simp)
  have hvalues : ["likes", "likes"].map (likesTwo.graph.valuesOf .forward 0) =
      [[2, 3], [2, 3]].map .ok :=
    eq_map_ok_of_toOption (by decide +kernel)
  have halice : ((Plan.fixed [.iri "alice"]).items likesTwo.graph []).toList =
      [Row.atNode 0].map .ok :=
    eq_map_ok_of_toOption (by decide +kernel)
  obtain ⟨⟨all, hall, hrows⟩, hlength, -⟩ := hstored likesTwo.graph (.atNode 0) 0 _ rfl hvalues
  refine ⟨_, _, p, m, ho, hplan, hnames _ List.mem_cons_self, all, hall, ?_, ?_⟩
  · rw [← List.length_map, ← hrows, hlength]
    rfl
  · rw [hitems, Supply.plan_ref, halice, ← hrows]
    simp

end Step

end QuadWalk
