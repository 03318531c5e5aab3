import QuadWalk.Proofs.Acceptance
import QuadWalk.Proofs.Gathering
import QuadWalk.Proofs.Membership

/-!
# Views of the rows

The root of a query that asks for a shape leaves no trace in its plan (`Step.prepare_of_shape`). So
whatever shape is asked for, the rows are those of the origin, and what is reported is a view of
them: of each row its value or its map, of the first row its map, of the rows at a place a document.

Where no value is missing (`Graph.Finds`), no view has an error and the views can be told from one
another. Each goes back to the rows, which bind tags to places. But values may be looked up before
tags are chosen or after (`Graph.MapOf.chosenOf`), and before rows are gathered or after
(`Graph.Gathers.collects`), so a map of chosen tags is chosen from a map and documents collect maps.
-/

namespace QuadWalk

open Items

/-! ### Chosen tags -/

namespace TagMap

variable {α β ε : Type} {m : TagMap α} {f : α → Except ε β}

/-- To choose tags leaves what they are bound to as it is. -/
theorem find?_restrict (m : TagMap α) (wanted : String → Bool) (t : String) :
    (m.restrict wanted).find? t = if wanted t then m.find? t else none := by
  show (m.entries.filter (wanted ·.1)).lookup t = _
  unfold find?
  induction m.entries with
  | nil => simp
  | cons e es ih =>
    rw [List.filter_cons, lookup_cons_eq_ite]
    by_cases he : t = e.1
    · subst he
      by_cases hwanted : wanted e.1
      · rw [if_pos hwanted, lookup_cons_eq_ite, if_pos rfl, if_pos hwanted, if_pos rfl]
      · rw [if_neg hwanted, ih, if_neg hwanted, if_neg hwanted]
    · rw [if_neg he, ← ih]
      split
      · rw [lookup_cons_eq_ite, if_neg he]
      · rfl

/-- Some tags of a map, as they are bound there, and no others. -/
def ChosenOf (names : List String) (m chosen : TagMap α) : Prop :=
  ∀ t, chosen.find? t = if t ∈ names then m.find? t else none

/-- A map can be computed if what is computed for each binding can. -/
theorem exists_traverse (h : ∀ t a, m.find? t = some a → ∃ b, f a = .ok b) :
    ∃ k, m.traverse f = .ok k := by
  cases hk : m.traverse f with
  | ok k => exact ⟨k, rfl⟩
  | error e =>
    obtain ⟨t, a, ha, hf⟩ := exists_of_traverse_eq_error hk
    obtain ⟨b, hb⟩ := h t a ha
    rw [hb] at hf
    cases hf

end TagMap

/-! ### What rows show -/

namespace Graph

variable {g : Graph} {items : Items} {rows : List Row} {maps : List (TagMap Value)}

/-- **Nothing is missing**: the items are some rows, and the value of each place is found that a row
is at or binds a tag to. -/
structure Finds (g : Graph) (items : Items) (rows : List Row) : Prop where
  lists : items.Lists rows
  places : ∀ r ∈ rows, ∃ v, g.valueAt r.position = .ok v
  tags : ∀ r ∈ rows, ∀ t p, r.tags.find? t = some p → ∃ v, g.valueAt p = .ok v

/-- The map of a row: it binds the tags that the row binds, each to the value of the place to which
the row binds it. -/
def MapOf (g : Graph) (r : Row) (m : TagMap Value) : Prop :=
  ∀ t, (r.tags.find? t).map g.valueAt = (m.find? t).map .ok

/-- **A document collects maps**: it has the value of its place, and its values are those to which
the maps of the rows there bind the tags, no more and no fewer. -/
structure Collects (g : Graph) (rows : List Row) (maps : List (TagMap Value)) (place : Position)
    (d : Document) : Prop where
  id : g.valueAt place = .ok d.id
  values : ∀ t v, (∃ field, d.fields.find? t = some field ∧ v ∈ field) ↔
    ∃ x ∈ rows.zip maps, x.1.position = place ∧ x.2.find? t = some v

theorem MapOf.find?_eq_some_iff {r : Row} {m : TagMap Value} (h : g.MapOf r m) {t : String}
    {v : Value} : m.find? t = some v ↔ ∃ p, r.tags.find? t = some p ∧ g.valueAt p = .ok v := by
  have ht := h t
  cases hr : r.tags.find? t <;> cases hm : m.find? t <;> simp_all

/-- What is looked up of some tags of a row are these tags of its map. -/
theorem MapOf.chosenOf {r : Row} {m chosen : TagMap Value} {names : List String} (h : g.MapOf r m)
    (hchosen : (r.tags.restrict names.contains).traverse g.valueAt = .ok chosen) :
    TagMap.ChosenOf names m chosen := by
  intro t
  have ht := TagMap.find?_of_traverse hchosen t
  simp only [TagMap.find?_restrict, List.contains_iff_mem] at ht
  apply Option.map_injective fun _ _ => Except.ok.inj (ε := QueryError)
  rw [← ht]
  split
  · exact h t
  · rfl

theorem mem_boundAt_iff {place p : Position} {t : String} :
    p ∈ boundAt rows place t ↔ ∃ r ∈ rows, r.position = place ∧ r.tags.find? t = some p := by
  simp [boundAt, and_assoc]

/-- The values of a field are those of what the rows at the place bind the tag to. -/
theorem Gathers.mem_field_iff {place : Position} {d : Document} (h : g.Gathers rows place d)
    {t : String} {v : Value} : (∃ field, d.fields.find? t = some field ∧ v ∈ field) ↔
      ∃ p ∈ boundAt rows place t, g.valueAt p = .ok v := by
  have hfield {field : List Value} (hf : d.fields.find? t = some field) : v ∈ field ↔
      ∃ p ∈ boundAt rows place t, g.valueAt p = .ok v := by
    obtain ⟨-, values, hvalues, rfl⟩ := h.values t field hf
    have hmem : .ok v ∈ (boundAt rows place t).map g.valueAt ↔ v ∈ values := by
      rw [hvalues]
      simp
    rw [List.mem_eraseDups, ← hmem, List.mem_map]
  constructor
  · rintro ⟨field, hf, hv⟩
    exact (hfield hf).1 hv
  · rintro ⟨p, hp, hv⟩
    -- a row binds the tag, so there is a field
    have hpresent : t ∈ d.fields.tags := by
      rw [h.present, ← boundAt_ne_nil_iff]
      exact List.ne_nil_of_mem hp
    obtain ⟨field, hf⟩ := Option.isSome_iff_exists.1 (TagMap.mem_tags_iff.1 hpresent)
    exact ⟨field, hf, (hfield hf).2 ⟨p, hp, hv⟩⟩

/-- A document that gathers rows collects their maps. -/
theorem Gathers.collects {place : Position} {d : Document} (h : g.Gathers rows place d)
    (hmaps : List.Forall₂ g.MapOf rows maps) : g.Collects rows maps place d where
  id := h.id
  values := by
    intro t v
    rw [h.mem_field_iff]
    constructor
    · rintro ⟨p, hp, hv⟩
      obtain ⟨r, hr, hplace, ht⟩ := mem_boundAt_iff.1 hp
      obtain ⟨m, hm⟩ := exists_mem_zip hmaps hr
      exact ⟨(r, m), hm, hplace, (List.forall₂_zip hmaps hm).find?_eq_some_iff.2 ⟨p, ht, hv⟩⟩
    · rintro ⟨⟨r, m⟩, hm, hplace, hfind⟩
      obtain ⟨p, ht, hv⟩ := (List.forall₂_zip hmaps hm).find?_eq_some_iff.1 hfind
      exact ⟨p, mem_boundAt_iff.2 ⟨r, (List.of_mem_zip hm).1, hplace, ht⟩, hv⟩

/-! ### Answers where nothing is missing -/

/-- What is reported of the first row is what is reported first of all rows. -/
theorem answers_first (g : Graph) (items : Unit → Items) :
    (g.answers .first items).toList = (g.answers (.tags none) items).toList.take 1 := by
  simp only [answers, answerEach, LazyList.toList_map, LazyList.toList_limit, List.map_take]

section Finds

variable (h : g.Finds items rows)

include h

/-- What is computed of each row is an answer each. -/
theorem Finds.exists_answers {α : Type} {f : Row → Except QueryError α} (answer : α → Answer)
    (hf : ∀ r ∈ rows, ∃ a, f r = .ok a) : ∃ as : List α,
      (answerEach (fun r => (f r).map answer) items).toList = (as.map answer).map .ok ∧
      List.Forall₂ (fun r a => f r = .ok a) rows as := by
  obtain ⟨as, has, hrows⟩ := exists_forall₂ hf
  refine ⟨as, ?_, hrows⟩
  calc (answerEach (fun r => (f r).map answer) items).toList
      = (rows.map f).map (·.map answer) := by
        rw [answerEach, LazyList.toList_map, show items.toList = rows.map .ok from h.lists,
          List.map_map, List.map_map]
        rfl
    _ = (as.map answer).map .ok := by
        rw [has, List.map_map, List.map_map]
        rfl

/-- The values of any tags of a row are found. -/
theorem Finds.exists_traverse_restrict {r : Row} (hr : r ∈ rows) (wanted : String → Bool) :
    ∃ m, (r.tags.restrict wanted).traverse g.valueAt = .ok m := by
  refine TagMap.exists_traverse fun t p ht => ?_
  rw [TagMap.find?_restrict] at ht
  split at ht
  · exact h.tags r hr t p ht
  · cases ht

theorem Finds.exists_documents : ∃ ds, g.documents items = .ok ds ∧
    List.Forall₂ (g.Gathers rows) (seenPlaces rows) ds := by
  cases hds : g.documents items with
  | error e =>
    have hnone (r : Row) (hr : .ok r ∈ items.toList) : r ∈ rows := h.lists.mem_iff.1 hr
    cases fails_of_documents hds with
    | item he =>
      rw [show items.toList = rows.map .ok from h.lists] at he
      simp at he
    | tag hr ht he =>
      obtain ⟨v, hv⟩ := h.tags _ (hnone _ hr) _ _ ht
      rw [hv] at he
      cases he
    | place hr he =>
      obtain ⟨v, hv⟩ := h.places _ (hnone _ hr)
      rw [hv] at he
      cases he
  | ok ds =>
    obtain ⟨rows', hrows', hgathers, -⟩ := gathers_of_documents hds
    obtain rfl : rows' = rows := map_ok_inj.1 (hrows'.symm.trans h.lists)
    exact ⟨ds, rfl, hgathers⟩

end Finds

end Graph

namespace Step

/-! ### One origin, several shapes -/

/-- A query is accepted and, on a graph, reports some answers and no error. -/
def Reports (settings : Settings) (g : Graph) (s : Step) (answers : List Answer) : Prop :=
  ∃ q, s.prepare settings = .ok q ∧ (q.answers g).toList = answers.map .ok

variable {o : Step} {settings : Settings} {q : PreparedQuery} {g : Graph} {rows : List Row}
  {names : List String}

/-- **A shape that is asked for changes the shape and nothing else.** -/
theorem prepare_of_shape {s : Step} (h : o.prepare settings = .ok q) (hvalues : q.shape = .values)
    (hs : s.shape.1 = o)
    (htags : ∀ o wanted, s = .select o (some wanted) → ∀ tag ∈ wanted, tag ∈ o.scope []) :
    s.prepare settings = .ok { q with shape := s.shape.2 } := by
  obtain ⟨p, m, hp, -, rfl⟩ := prepare_eq_ok_iff.1 h
  rw [shape_of_values hvalues, ← hs] at hp
  have hbinds := contains_of_plans (plans_of_plan hp) knows_root.tags
  exact prepare_eq_ok_iff.2 ⟨p, m, hp, (checkTags_eq_ok_iff hbinds).2 htags, rfl⟩

/-- **All shapes are views of the same rows.** If a query that asks for no shape is accepted and
nothing is missing on a graph, then it is accepted with each shape, if the tags that are chosen are
in scope, and no error is reported. Values and maps are reported in the order of the rows, one for
each; what is reported of chosen tags are these tags of the maps, of the first row the first map;
and a document is reported for each place, in the order in which the places first appear, which
collects the maps of the rows there. -/
theorem reports_shapes (h : o.prepare settings = .ok q) (hvalues : q.shape = .values)
    (hnames : ∀ t ∈ names, t ∈ o.scope []) (hfinds : g.Finds (q.items g) rows) :
    ∃ (values : List Value) (maps chosen : List (TagMap Value)) (ds : List Document),
      (o.Reports settings g (values.map .value) ∧
        (select o none).Reports settings g (maps.map .tags) ∧
        (select o (some names)).Reports settings g (chosen.map .tags) ∧
        (selectFirst o).Reports settings g ((maps.take 1).map .tags) ∧
        (documents o).Reports settings g (ds.map .document)) ∧
      values.length = maps.length ∧
      List.Forall₂ (fun r v => g.valueAt r.position = .ok v) rows values ∧
      List.Forall₂ g.MapOf rows maps ∧
      List.Forall₂ (TagMap.ChosenOf names) maps chosen ∧
      List.Forall₂ (g.Collects rows maps) (seenPlaces rows) ds := by
  obtain ⟨values, hvalueAnswers, hplaces⟩ := hfinds.exists_answers .value hfinds.places
  obtain ⟨maps, hmapAnswers, hrows⟩ := hfinds.exists_answers (f := g.tagValues) .tags
    fun r hr => TagMap.exists_traverse (hfinds.tags r hr)
  obtain ⟨chosen, hchosenAnswers, hchosen⟩ := hfinds.exists_answers .tags
    fun r hr => hfinds.exists_traverse_restrict hr names.contains
  obtain ⟨ds, hds, hgathers⟩ := hfinds.exists_documents
  have hmaps : List.Forall₂ g.MapOf rows maps :=
    hrows.imp fun r m hm => TagMap.find?_of_traverse hm
  have hprepare {s : Step} (hs : s.shape.1 = o)
      (htags : ∀ o wanted, s = .select o (some wanted) → ∀ tag ∈ wanted, tag ∈ o.scope []) :=
    prepare_of_shape h hvalues hs htags
  refine ⟨values, maps, chosen, ds, ⟨⟨q, h, ?_⟩, ⟨_, hprepare rfl nofun, hmapAnswers⟩,
    ⟨_, hprepare rfl ?_, hchosenAnswers⟩, ⟨_, hprepare rfl nofun, ?_⟩,
    ⟨_, hprepare rfl nofun, ?_⟩⟩, ?_, hplaces, hmaps, ?_,
    hgathers.imp fun place d hd => hd.collects hmaps⟩
  · rw [PreparedQuery.answers, hvalues]
    exact hvalueAnswers
  · rintro _ _ ⟨⟩
    exact hnames
  · rw [List.map_take, List.map_take, ← hmapAnswers]
    exact Graph.answers_first g fun _ => q.items g
  · show (g.answers .documents fun _ => q.items g).toList = _
    rw [Graph.answers, hds, LazyList.toList_ofList, List.map_map]
    rfl
  · rw [← hplaces.length_eq, hmaps.length_eq]
  · exact forall₂_of_forall₂ hmaps hchosen fun r m w => Graph.MapOf.chosenOf

/-- Everyone whom Alice likes, and Bob. -/
def likingsAndBob : Step :=
  .combine .union (.properties .forward (.tagged (.vertex []) "who") ["likes"])
    [.vertex [.iri "bob"]]

/-- What it is prepared to. -/
def likingsAndBobQuery : PreparedQuery where
  plan := .union (.save .forward (.tag .allNodes "who") (.iri "likes") "likes")
    [.fixed [.iri "bob"]]
  shape := .values
  tags := ["who", "likes"]

/-- A store in which someone likes two others. -/
def twoLikings : QuadStore :=
  .ofQuads [.ofIris "alice" "likes" "bob" "", .ofIris "alice" "likes" "carol" ""]

/-- Alice with each of those whom she likes, and Bob without tags. -/
def likingRows : List Row :=
  let alice := (Row.atNode 0).mark "who"
  [alice.bind "likes" 2, alice.bind "likes" 3, .atNode 2]

/-- Three rows at two places have three maps and two documents. -/
theorem reports_shapes_likings :
    likingsAndBob.prepare {} = .ok likingsAndBobQuery ∧ likingsAndBobQuery.shape = .values ∧
    (∀ t ∈ ["likes"], t ∈ likingsAndBob.scope []) ∧
    twoLikings.graph.Finds (likingsAndBobQuery.items twoLikings.graph) likingRows ∧
    ∃ (maps : List (TagMap Value)) (ds : List Document),
      (select likingsAndBob none).Reports {} twoLikings.graph (maps.map .tags) ∧
      (documents likingsAndBob).Reports {} twoLikings.graph (ds.map .document) ∧
      maps.length = 3 ∧ ds.length = 2 := by
  have hprepare : likingsAndBob.prepare {} = .ok likingsAndBobQuery := rfl
  have hnames : ∀ t ∈ ["likes"], t ∈ likingsAndBob.scope [] := by decide
  have hlists : (likingsAndBobQuery.items twoLikings.graph).Lists likingRows := by
    refine eq_map_ok_of_toOption ?_
    rw [PreparedQuery.items, likingsAndBobQuery, Plan.items, distinct, LazyList.toList_distinct]
    decide +kernel
  have hplaces : ∀ r ∈ likingRows, ∀ p ∈ r.position :: r.tags.entries.map Prod.snd,
      (twoLikings.graph.valueAt p).isOk = true := by
    decide +kernel
  have hfinds : twoLikings.graph.Finds (likingsAndBobQuery.items twoLikings.graph) likingRows := by
    refine ⟨hlists, fun r hr => exists_eq_ok_of_isOk (hplaces r hr _ List.mem_cons_self),
      fun r hr t p ht => exists_eq_ok_of_isOk (hplaces r hr p (List.mem_cons_of_mem _ ?_))⟩
    exact List.mem_map_of_mem (TagMap.mem_of_lookup ht)
  obtain ⟨_, maps, _, ds, ⟨-, hmaps, -, -, hds⟩, -, -, hrows, -, hseen⟩ :=
    reports_shapes hprepare rfl hnames hfinds
  exact ⟨hprepare, rfl, hnames, hfinds, maps, ds, hmaps, hds, hrows.length_eq.symm,
    hseen.length_eq.symm⟩

end Step

end QuadWalk
