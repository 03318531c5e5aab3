import QuadWalk.Proofs.Exports
import QuadWalk.Proofs.Gathering
import QuadWalk.Proofs.Parts

/-!
# The name of the identifier

A document is shown as one object: its identifier under the name `@id`, and each field under its own
name. What the object has under a name is known for every name (`Document.field?_toLinkedData`): no
field is ever lost, but a field that is named `@id` as well hides the identifier. So a document is
shown whole exactly if no row at its place binds the tag `@id`.

Tags get their names from the steps of a query and from nowhere else (`Step.tagsWithin_named`).
Whether a document can be hit is therefore seen in the query, whatever the graph: if no step in it
gives the name `@id` to a tag, all documents are shown whole.
-/

namespace QuadWalk

/-! ### Objects -/

namespace Json

/-- What an object has under a name. -/
def field? : Json → String → Option Json
  | object fields, name => fields.lookup name
  | _, _ => none

variable {fields : List (String × Json)} {name : String} {value : Json}

theorem lookup_put (other : String) :
    (put fields name value).lookup other =
      if other = name then some value else fields.lookup other := by
  induction fields with
  | nil => rw [put, TagMap.lookup_cons_eq_ite]
  | cons f fs ih =>
    obtain ⟨kept, old⟩ := f
    rw [put]
    by_cases hname : kept = name
    · rw [if_pos hname, TagMap.lookup_cons_eq_ite, TagMap.lookup_cons_eq_ite, hname]
      by_cases hother : other = name <;> simp [hother]
    · rw [if_neg hname, TagMap.lookup_cons_eq_ite, TagMap.lookup_cons_eq_ite, ih]
      by_cases hkept : other = kept
      · simp [hkept, hname]
      · simp [hkept]

theorem names_put : (put fields name value).map Prod.fst =
    if name ∈ fields.map Prod.fst then fields.map Prod.fst
    else fields.map Prod.fst ++ [name] := by
  induction fields with
  | nil => rfl
  | cons f fs ih =>
    obtain ⟨kept, old⟩ := f
    rw [put]
    by_cases hname : kept = name
    · simp [hname]
    · rw [if_neg hname, List.map_cons, ih]
      by_cases hmem : name ∈ fs.map Prod.fst <;> simp [hmem, Ne.symm hname]

/-- An object has each name once, also after a field is put in. -/
theorem nodup_put (h : (fields.map Prod.fst).Nodup) :
    ((put fields name value).map Prod.fst).Nodup := by
  rw [names_put]
  by_cases hmem : name ∈ fields.map Prod.fst
  · rwa [if_pos hmem]
  · rw [if_neg hmem, List.nodup_append]
    refine ⟨h, by simp, fun a ha b hb => ?_⟩
    obtain rfl := List.mem_singleton.1 hb
    exact ne_of_mem_of_not_mem ha hmem

end Json

/-! ### What a document is shown as -/

namespace Document

/-- The object has the fields of a document: each under its name, as the array of its values in
their order. -/
def HasFields (d : Document) (json : Json) : Prop :=
  ∀ t values, d.fields.find? t = some values →
    json.field? t = some (.array (values.map Value.toLinkedData))

/-- A document is shown whole: its identifier is under `@id`, its fields are under their names. -/
structure ShownBy (d : Document) (json : Json) : Prop where
  id : json.field? "@id" = some (.string d.id.identifier)
  fields : d.HasFields json

/-- A document is shown as an object that has each name once. -/
theorem exists_object (d : Document) :
    ∃ fields, d.toLinkedData = .object fields ∧ (fields.map Prod.fst).Nodup := by
  have step (es : List (String × List Value)) (fields : List (String × Json))
      (h : (fields.map Prod.fst).Nodup) :
      ((es.foldl (fun object e => Json.put object e.1 (.array (e.2.map Value.toLinkedData)))
        fields).map Prod.fst).Nodup := by
    induction es generalizing fields with
    | nil => exact h
    | cons e es ih => exact ih _ (Json.nodup_put h)
  exact ⟨_, rfl, step d.fields.entries _ (List.nodup_singleton _)⟩

/-- **What is shown under a name**: the field of that name; if there is none, the identifier under
`@id`. -/
theorem field?_toLinkedData (d : Document) (t : String) :
    d.toLinkedData.field? t =
      ((d.fields.find? t).map fun values => .array (values.map Value.toLinkedData)).or
        (if t = "@id" then some (.string d.id.identifier) else none) := by
  have hfirst : [("@id", Json.string d.id.identifier)].lookup t =
      if t = "@id" then some (.string d.id.identifier) else none :=
    TagMap.lookup_cons_eq_ite ..
  rw [toLinkedData, Json.field?, TagMap.find?, ← hfirst]
  have hascending := d.fields.ascending
  generalize d.fields.entries = es, [("@id", Json.string d.id.identifier)] = object at hascending
  induction es generalizing object with
  | nil => simp
  | cons e es ih =>
    obtain ⟨first, rest⟩ := List.pairwise_cons.1 hascending
    rw [List.foldl_cons, ih _ rest, Json.lookup_put, TagMap.lookup_cons_eq_ite]
    by_cases ht : t = e.1
    · -- a name has one field only, so the ones that follow leave it alone
      simp [ht, TagMap.lookup_eq_none_of_below first]
    · simp [ht]

theorem hasFields_toLinkedData (d : Document) : d.HasFields d.toLinkedData := by
  intro t values h
  rw [field?_toLinkedData, h, Option.map_some, Option.some_or]

/-- Besides the fields and the identifier, nothing is shown. -/
theorem field?_toLinkedData_eq_none {d : Document} {t : String} (ht : t ∉ d.fields.tags)
    (hid : t ≠ "@id") : d.toLinkedData.field? t = none := by
  rw [TagMap.mem_tags_iff, Option.not_isSome_iff_eq_none] at ht
  rw [field?_toLinkedData, ht, Option.map_none, Option.none_or, if_neg hid]

/-- A document is shown whole if and only if none of its fields has the name of the identifier. -/
theorem shownBy_toLinkedData_iff (d : Document) :
    d.ShownBy d.toLinkedData ↔ "@id" ∉ d.fields.tags := by
  rw [TagMap.mem_tags_iff, Option.not_isSome_iff_eq_none]
  constructor
  · intro h
    have hid := h.id
    rw [field?_toLinkedData] at hid
    cases hfind : d.fields.find? "@id" with
    | none => rfl
    | some values => simp [hfind] at hid
  · intro hnone
    refine ⟨?_, d.hasFields_toLinkedData⟩
    rw [field?_toLinkedData, hnone, Option.map_none, Option.none_or, if_pos rfl]

end Document

/-! ### Where the names of tags come from -/

namespace Step

open Items

/-- The names that a step itself gives to tags. -/
def gives (s : Step) : List String := (s.origin?.map Prod.snd).getD []

/-- The names that a step gives to tags anywhere inside of it. -/
def named (s : Step) : List String := s.parts.flatMap gives

variable {sizeLimit : Nat} {g : Graph} {s o : Step} {names : List String}

theorem gives_of_origin {marks : List String} (h : s.origin? = some (o, marks)) :
    s.gives = marks := by
  rw [gives, h, Option.map_some, Option.getD_some]

theorem named_subset_of_parts (h : ∀ part ∈ o.parts, part ∈ s.parts) (hs : s.named ⊆ names) :
    o.named ⊆ names := by
  intro t ht
  obtain ⟨part, hpart, ht⟩ := List.mem_flatMap.1 ht
  exact hs (List.mem_flatMap.2 ⟨part, h part hpart, ht⟩)

/-- **Tags have names that some step gives them**, up to the tags of the rows for which the
placeholder stands. -/
theorem tagsWithin_named (hs : s.named ⊆ names) {ph : Items} (hph : ph.TagsWithin names) :
    (s.meaning sizeLimit g ph).TagsWithin names := by
  induction s using row_induction generalizing ph with
  | entities ids =>
    intro r hr
    obtain ⟨values, -, hr⟩ := mem_drain.1 hr
    exact Row.tagsWithin_of_tags_eq_empty (tags_of_mem_ofRows_atNode hr)
  | vertex values =>
    exact fun r hr => Row.tagsWithin_of_tags_eq_empty (tags_of_mem_ofRows_atNode hr)
  | placeholder => exact hph
  | @origin s o marks ho ih =>
    intro r hr
    obtain ⟨r₀, h₀, marked⟩ := exists_origin_row ho hr
    have hmarks : marks ⊆ names := fun t ht =>
      hs (List.mem_flatMap.2 ⟨s, mem_parts_self s, gives_of_origin ho ▸ ht⟩)
    have horigin := named_subset_of_parts
      (fun part => mem_parts_of_previous (previous_of_origin ho)) hs
    refine (Stage.tagsWithin_of_marked marked (ih horigin hph r₀ h₀)).mono fun t ht => ?_
    exact (List.mem_append.1 ht).elim (fun ht => hmarks ht) id
  | @union o ss iho ihss =>
    intro r hr
    rcases mem_append_concat.1 (mem_of_mem_distinct hr) with hr | ⟨_, hbranch, hr⟩
    · exact iho (named_subset_of_parts (fun part => mem_parts_of_previous rfl) hs) hph r hr
    · rw [meaningEach_eq_map] at hbranch
      obtain ⟨b, hb, rfl⟩ := List.mem_map.1 hbranch
      exact ihss b hb (named_subset_of_parts (fun part => mem_parts_of_combined hb) hs) hph r hr
  | count _ =>
    intro r hr
    obtain ⟨n, rfl⟩ := eq_of_mem_count hr
    exact Row.tagsWithin_of_tags_eq_empty rfl
  | @whereAll o ss iho ihss =>
    intro r hr
    obtain ⟨r₀, rows, h₀, hj, hr⟩ := mem_expand.1 hr
    have hr₀ := iho (named_subset_of_parts (fun part => mem_parts_of_previous rfl) hs) hph r₀ h₀
    refine Stage.tagsWithin_of_mem_join hj hr hr₀ ?_
    rw [meaningEach_eq_map]
    intro _ hbranch m hhead
    obtain ⟨b, hb, rfl⟩ := List.mem_map.1 hbranch
    exact ihss b hb (named_subset_of_parts (fun part => mem_parts_of_branch hb) hs) hr₀.ofRows m
      (mem_of_head? hhead)
  | @optional o b iho ihb =>
    intro r hr
    obtain ⟨r₀, rows, h₀, hj, hr⟩ := mem_expand.1 hr
    have hr₀ := iho (named_subset_of_parts (fun part => mem_parts_of_previous rfl) hs) hph r₀ h₀
    refine Stage.tagsWithin_of_mem_join hj hr hr₀ fun _ hbranch m hhead => ?_
    obtain rfl := List.mem_singleton.1 hbranch
    exact ihb (named_subset_of_parts (fun part => mem_parts_of_option) hs) hr₀.ofRows m
      (mem_of_head? hhead)
  | follow iho ihf =>
    exact ihf (named_subset_of_parts (fun part => mem_parts_of_fragment) hs)
      (iho (named_subset_of_parts (fun part => mem_parts_of_previous rfl) hs) hph)

end Step

/-! ### Documents of a query -/

namespace Graph

variable {g : Graph} {shape : Shape} {items : Unit → Items} {d : Document}

/-- Only documents are reported as documents. -/
theorem shape_of_mem_answers (h : .ok (.document d) ∈ (g.answers shape items).toList) :
    shape = .documents := by
  have hbind {f : Row → Except QueryError Answer} {items : Items}
      (hf : ∀ r, f r ≠ .ok (.document d)) :
      .ok (.document d) ∉ (answerEach f items).toList := by
    rw [answerEach, LazyList.toList_map, List.mem_map]
    rintro ⟨item, -, hitem⟩
    obtain ⟨r, -, hr⟩ := bind_ok_iff.1 hitem
    exact hf r hr
  have htags (wanted : Option (List String)) (r : Row) :
      g.tagAnswer wanted r ≠ .ok (.document d) := by
    intro hr
    obtain ⟨bindings, -, hr⟩ := map_ok_iff.1 hr
    cases hr
  cases shape with
  | documents => rfl
  | values =>
    refine absurd h (hbind fun r hr => ?_)
    obtain ⟨v, -, hv⟩ := map_ok_iff.1 hr
    cases hv
  | tags wanted => exact absurd h (hbind (htags wanted))
  | first => exact absurd h (hbind (htags none))

/-- A document that is reported gathers the rows at a place where there are some. -/
theorem exists_gathers_of_mem_answers (h : .ok (.document d) ∈ (g.answers shape items).toList) :
    ∃ rows place, (items ()).Lists rows ∧ place ∈ seenPlaces rows ∧ g.Gathers rows place d := by
  obtain rfl := shape_of_mem_answers h
  rw [answers] at h
  cases hds : g.documents (items ()) with
  | error e =>
    rw [hds, LazyList.toList_ofList] at h
    simp at h
  | ok ds =>
    rw [hds, LazyList.toList_ofList] at h
    obtain ⟨rows, hrows, hgathers, -⟩ := gathers_of_documents hds
    have hd : d ∈ ds := by simpa using h
    obtain ⟨place, hplace, hplaced⟩ := exists_right_of_forall₂ hgathers.flip hd
    exact ⟨rows, place, hrows, hplace, hplaced⟩

end Graph

namespace Step

open Items

/-- **Documents are shown whole unless a row binds the name of the identifier.** A document that a
query reports is shown as an object in which each name stands once, which has all its fields, and
nothing but them and the identifier. It is shown whole exactly if no row at its place binds the tag
`@id`, in particular if no step of the query gives that name to a tag. -/
theorem shownBy_iff_of_prepare {s : Step} {settings : Settings} {q : PreparedQuery}
    (h : s.prepare settings = .ok q) (g : Graph) {d : Document}
    (hd : .ok (.document d) ∈ (q.answers g).toList) :
    (∃ fields, d.toLinkedData = .object fields ∧ (fields.map Prod.fst).Nodup) ∧
    d.HasFields d.toLinkedData ∧
    (∀ t ∉ d.fields.tags, t ≠ "@id" → d.toLinkedData.field? t = none) ∧
    (∃ rows place, (q.items g).Lists rows ∧ place ∈ seenPlaces rows ∧ g.Gathers rows place d ∧
      (d.ShownBy d.toLinkedData ↔ ∀ r ∈ rows, r.position = place → "@id" ∉ r.tags.tags)) ∧
    ("@id" ∉ s.named → d.ShownBy d.toLinkedData) := by
  obtain ⟨rows, place, hrows, hplace, hgathers⟩ := Graph.exists_gathers_of_mem_answers hd
  have hiff : d.ShownBy d.toLinkedData ↔ ∀ r ∈ rows, r.position = place → "@id" ∉ r.tags.tags := by
    rw [d.shownBy_toLinkedData_iff, hgathers.present]
    simp
  refine ⟨d.exists_object, d.hasFields_toLinkedData,
    fun _ => Document.field?_toLinkedData_eq_none,
    ⟨rows, place, hrows, hplace, hgathers, hiff⟩, fun hnamed => hiff.2 fun r hr _ hid => ?_⟩
  have hr : .ok r ∈ (s.meaning settings.patternSizeLimit g (ofRows (g.nodes.map .atNode))).toList :=
    items_of_prepare h ▸ hrows.mem_iff.2 hr
  have hnodes : (ofRows (g.nodes.map .atNode)).TagsWithin s.named := fun r hr =>
    Row.tagsWithin_of_tags_eq_empty (tags_of_mem_ofRows_atNode hr)
  exact hnamed (tagsWithin_named (List.Subset.refl _) hnodes r hr "@id" hid)

/-- What a query was seen to report is among its answers. -/
theorem exists_answer_of_run {s : Step} {g : Graph} {a : Answer}
    (h : (s.prepare {}).toOption.map (fun q => (q.answers g).toList.map Except.toOption) =
      some [some a]) :
    ∃ q, s.prepare {} = .ok q ∧ .ok a ∈ (q.answers g).toList := by
  obtain ⟨q, hq, hanswers⟩ := Option.map_eq_some_iff.1 h
  have ha : some a ∈ (q.answers g).toList.map Except.toOption := by
    rw [hanswers]
    exact List.mem_singleton_self _
  obtain ⟨answer, hanswer, ha⟩ := List.mem_map.1 ha
  exact ⟨q, eq_ok_of_toOption hq, eq_ok_of_toOption ha ▸ hanswer⟩

/-- Everyone with those whom they like, as documents. -/
def likings : Step := .documents (.properties .forward (.vertex []) ["likes"])

theorem shownBy_of_prepare_likings :
    ∃ q d, likings.prepare {} = .ok q ∧
      .ok (.document d) ∈
        (q.answers (QuadStore.ofQuads [.ofIris "alice" "likes" "bob" ""]).graph).toList ∧
      d.ShownBy d.toLinkedData := by
  let d : Document := ⟨.iri "alice", .ofList [("likes", [.iri "bob"])]⟩
  obtain ⟨q, hq, hd⟩ := exists_answer_of_run (s := likings) (a := .document d)
    (g := (QuadStore.ofQuads [.ofIris "alice" "likes" "bob" ""]).graph) (by decide +kernel)
  exact ⟨q, d, hq, hd, (shownBy_iff_of_prepare hq _ hd).2.2.2.2 (by decide)⟩

/-- A document with a field that has the name of the identifier. -/
def masked : Step := .documents (.tagged (.vertex [.iri "alice"]) "@id")

/-- Its identifier is not shown. -/
theorem not_shownBy_of_prepare :
    ¬ ∀ (s : Step) (settings : Settings) (q : PreparedQuery), s.prepare settings = .ok q →
      ∀ (store : QuadStore) (d : Document),
        .ok (.document d) ∈ (q.answers store.graph).toList → d.ShownBy d.toLinkedData := by
  intro h
  let d : Document := ⟨.iri "alice", .ofList [("@id", [.iri "alice"])]⟩
  let store : QuadStore := .ofQuads [.ofIris "alice" "likes" "bob" ""]
  obtain ⟨q, hq, hd⟩ := exists_answer_of_run (s := masked) (a := .document d) (g := store.graph)
    (by decide +kernel)
  have hunnamed := d.shownBy_toLinkedData_iff.1 (h masked {} q hq store d hd)
  exact hunnamed (by decide)

end Step

end QuadWalk
