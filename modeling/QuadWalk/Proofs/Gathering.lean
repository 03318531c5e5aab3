import QuadWalk.Proofs.Breakers
import QuadWalk.Proofs.Distinct
import QuadWalk.Query.Answer

/-!
# Gathering rows into documents

Rows come in any order, those at one place among others, and each binds tags of its own. A document
gathers the rows at one place: for each tag that some of them binds, it has a field with the values
of the tag over these rows, each once (`Graph.Gathers`).

The groups from which documents are made are built up row by row. What they are at any time is said
of all rows so far, without looking back at how they were built (`Groups`), and a further row keeps
it so: it adds its values to the fields of its own group, and either may be new (`Groups.add`).

Documents are known when all rows are, so an error in place of a row, or a place whose value is not
found, is the one thing that is reported (`Graph.answers_documents`).
-/

namespace QuadWalk

open Items

/-! ### The values of a map -/

namespace TagMap

variable {α β ε : Type} {f : α → Except ε β} {m : TagMap α} {k : TagMap β} {t : String} {e : ε}

/-- Entries that are computed from others have the same tags, and each tag has what is computed from
what it had. -/
theorem lookup_of_map_eq {es : List (String × α)} {fs : List (String × β)}
    (h : (es.map fun x => (f x.2).map (x.1, ·)) = fs.map .ok) :
    fs.map Prod.fst = es.map Prod.fst ∧ ∀ t, (es.lookup t).map f = (fs.lookup t).map .ok := by
  induction es generalizing fs with
  | nil =>
    obtain rfl : fs = [] := by simpa using h.symm
    exact ⟨rfl, fun _ => rfl⟩
  | cons x es ih =>
    obtain ⟨y, fs, rfl, hy, hrest⟩ := List.map_eq_cons_iff.1 h.symm
    obtain ⟨b, hb, rfl⟩ := map_ok_iff.1 hy.symm
    obtain ⟨htags, hlookup⟩ := ih hrest.symm
    refine ⟨by rw [List.map_cons, List.map_cons, htags], fun t => ?_⟩
    rw [lookup_cons_eq_ite, lookup_cons_eq_ite]
    by_cases ht : t = x.1
    · simp [ht, hb]
    · simp [ht, hlookup]

/-- A map of what is computed for each binding binds the same tags, each to that. -/
theorem find?_of_traverse (h : m.traverse f = .ok k) (t : String) :
    (m.find? t).map f = (k.find? t).map .ok := by
  obtain ⟨fs, hfs, rfl⟩ := map_ok_iff.1 h
  obtain ⟨htags, hlookup⟩ := lookup_of_map_eq (mapM_ok_iff.1 hfs)
  have hascending : fs.Pairwise fun x y => x.1 < y.1 := by
    rw [← List.pairwise_map, htags, List.pairwise_map]
    exact m.ascending
  rw [find?, hlookup t, ofList, find?_foldl_insert hascending, find?_empty, Option.or_none]

/-- If no map can be computed, that is because of one of the bindings. -/
theorem exists_of_traverse_eq_error (h : m.traverse f = .error e) :
    ∃ t a, m.find? t = some a ∧ f a = .error e := by
  have hentries : (m.entries.mapM fun x => (f x.2).map (x.1, ·)) = .error e := by
    rw [traverse] at h
    cases hes : m.entries.mapM fun x => (f x.2).map (x.1, ·) with
    | ok fs =>
      rw [hes] at h
      cases h
    | error e' =>
      rw [hes] at h
      cases h
      rfl
  obtain ⟨x, hx, hfailure⟩ := List.exists_of_findSome?_eq_some (mapM_eq_error_iff.1 hentries)
  refine ⟨x.1, x.2, find?_of_mem_entries hx, ?_⟩
  cases hf : f x.2 <;> simp_all [failure?, Except.map]

end TagMap

/-! ### Fields -/

/-- The field of a tag that takes some values: each of them once, or no field if there is none. -/
def fieldOf (values : List Value) : Option (List Value) :=
  if values.isEmpty then none else some values.eraseDups

theorem fieldOf_append_singleton (values : List Value) (v : Value) :
    fieldOf (values ++ [v]) = some (addValue ((fieldOf values).getD []) v) := by
  have hold : (fieldOf values).getD [] = values.eraseDups := by
    cases values <;> simp [fieldOf]
  have hnew : (values ++ [v]).eraseDups = addValue values.eraseDups v := by
    rw [eraseDups_append_singleton, addValue]
    by_cases hv : v ∈ values <;> simp [hv]
  rw [hold, ← hnew]
  simp [fieldOf]

/-- A row adds to a field what it binds the tag to, if it does. -/
theorem find?_addValues {fields : TagMap (List Value)} {bindings : TagMap Value} {t : String}
    {values : List Value} (h : fields.find? t = fieldOf values) :
    (addValues fields bindings).find? t = fieldOf (values ++ (bindings.find? t).toList) := by
  rw [addValues, show bindings.find? t = bindings.entries.lookup t from rfl]
  have hascending := bindings.ascending
  generalize bindings.entries = es at hascending
  induction es generalizing fields values with
  | nil => simpa using h
  | cons x es ih =>
    obtain ⟨first, rest⟩ := List.pairwise_cons.1 hascending
    rw [List.foldl_cons, TagMap.lookup_cons_eq_ite]
    by_cases ht : t = x.1
    · subst ht
      -- a tag has one entry only, so what follows leaves the field alone
      have hnone : es.lookup x.1 = none := TagMap.lookup_eq_none_of_below first
      have hfield : (fields.insert x.1 (addValue ((fields.find? x.1).getD []) x.2)).find? x.1 =
          fieldOf (values ++ [x.2]) := by
        rw [TagMap.find?_insert, if_pos rfl, fieldOf_append_singleton, ← h]
      rw [ih hfield rest, hnone, if_pos rfl, Option.toList_none, Option.toList_some,
        List.append_nil]
    · have hfield : (fields.insert x.1 (addValue ((fields.find? x.1).getD []) x.2)).find? t =
          fieldOf values := by
        rw [TagMap.find?_insert, if_neg ht, h]
      rw [ih hfield rest, if_neg ht]

/-! ### Groups -/

/-- A row as documents see it: its place, and the values of its tags. -/
abbrev Entry := Position × TagMap Value

/-- The values that a tag takes over the entries at a place. -/
def valuesAt (entries : List Entry) (place : Position) (t : String) : List Value :=
  (entries.filter (·.1 = place)).filterMap (·.2.find? t)

/-- The groups of some entries: one for each place, in the order in which the places first appear,
with the fields of the entries there. -/
structure Groups (entries : List Entry) (groups : List Group) : Prop where
  places : groups.map Prod.fst = (entries.map Prod.fst).eraseDups
  fields : ∀ place t, ((groups.lookup place).getD .empty).find? t =
    fieldOf (valuesAt entries place t)

section Add

variable {place : Position} {bindings : TagMap Value} {groups : List Group}

/-- An entry makes a new group only at a place that has none. -/
theorem places_addToGroup : (addToGroup place bindings groups).map Prod.fst =
    if place ∈ groups.map Prod.fst then groups.map Prod.fst
    else groups.map Prod.fst ++ [place] := by
  induction groups with
  | nil => rfl
  | cons group groups ih =>
    unfold addToGroup
    by_cases hplace : group.1 = place
    · simp [hplace]
    · rw [if_neg hplace, List.map_cons, ih]
      by_cases hmem : place ∈ groups.map Prod.fst <;> simp [hmem, Ne.symm hplace]

/-- An entry adds to the fields at its own place and to no others. -/
theorem lookup_addToGroup (other : Position) :
    ((addToGroup place bindings groups).lookup other).getD .empty =
      if other = place then addValues ((groups.lookup place).getD .empty) bindings
      else (groups.lookup other).getD .empty := by
  induction groups with
  | nil =>
    by_cases hother : other = place
    · simp [addToGroup, hother]
    · simp [addToGroup, List.lookup_cons, hother, beq_eq_false_iff_ne.2 hother]
  | cons group groups ih =>
    obtain ⟨first, fields⟩ := group
    rw [addToGroup]
    by_cases hplace : first = place
    · by_cases hother : other = place
      · simp [hplace, hother]
      · simp [List.lookup_cons, hplace, hother, beq_eq_false_iff_ne.2 hother]
    · by_cases hfirst : other = first
      · simp [hfirst, hplace]
      · simp [List.lookup_cons, hplace, ih, beq_eq_false_iff_ne.2 (Ne.symm hplace),
          beq_eq_false_iff_ne.2 hfirst]

/-- **One more entry keeps the groups what they are.** -/
theorem Groups.add {entries : List Entry} (h : Groups entries groups) (entry : Entry) :
    Groups (entries ++ [entry]) (addToGroup entry.1 entry.2 groups) where
  places := by
    rw [places_addToGroup, h.places, List.map_append, List.map_singleton,
      eraseDups_append_singleton]
    simp only [List.mem_eraseDups]
  fields := by
    intro other t
    rw [lookup_addToGroup]
    by_cases hother : other = entry.1
    · have hvalues : valuesAt (entries ++ [entry]) other t =
          valuesAt entries entry.1 t ++ (entry.2.find? t).toList := by
        cases hfind : entry.2.find? t <;> simp [valuesAt, hother, hfind]
      rw [if_pos hother, hvalues]
      exact find?_addValues (h.fields entry.1 t)
    · have hvalues : valuesAt (entries ++ [entry]) other t = valuesAt entries other t := by
        simp [valuesAt, Ne.symm hother]
      rw [if_neg hother, hvalues]
      exact h.fields other t

end Add

/-- Entry by entry, the groups of all entries are built up. -/
theorem groups_foldl (entries : List Entry) :
    Groups entries (entries.foldl (fun groups entry => addToGroup entry.1 entry.2 groups) []) := by
  induction entries using List.reverseRecOn with
  | nil => exact ⟨rfl, fun _ _ => rfl⟩
  | append_singleton entries entry ih =>
    rw [List.foldl_append]
    exact ih.add entry

/-- The fields of a group are those of the entries at its place. -/
theorem Groups.find?_of_mem {entries : List Entry} {groups : List Group} (h : Groups entries groups)
    {group : Group} (hgroup : group ∈ groups) (t : String) :
    group.2.find? t = fieldOf (valuesAt entries group.1 t) := by
  have hdistinct : groups.Pairwise fun a b => b.1 ≠ a.1 := by
    have hplaces : (groups.map Prod.fst).Pairwise fun p q => q ≠ p := by
      rw [h.places]
      exact pairwise_eraseDupsBy.imp fun {p q} hpq => by simpa using hpq
    exact List.pairwise_map.1 hplaces
  have hlookup : groups.lookup group.1 = some group.2 := by
    clear h
    induction groups with
    | nil => simp at hgroup
    | cons first groups ih =>
      obtain ⟨hfirst, hrest⟩ := List.pairwise_cons.1 hdistinct
      rcases List.mem_cons.1 hgroup with rfl | hmem
      · rw [List.lookup_cons, beq_self_eq_true]
      · rw [List.lookup_cons, beq_eq_false_iff_ne.2 (hfirst group hmem)]
        exact ih hmem hrest
  rw [← h.fields group.1 t, hlookup, Option.getD_some]

/-! ### What documents are made of -/

/-- The places at which some rows are, each once, in the order in which they first appear. -/
def seenPlaces (rows : List Row) : List Position := (rows.map (·.position)).eraseDups

/-- What the rows at a place bind a tag to, those that do, in their order. -/
def boundAt (rows : List Row) (place : Position) (t : String) : List Position :=
  (rows.filter (·.position = place)).filterMap (·.tags.find? t)

theorem boundAt_ne_nil_iff {rows : List Row} {place : Position} {t : String} :
    boundAt rows place t ≠ [] ↔ ∃ r ∈ rows, r.position = place ∧ t ∈ r.tags.tags := by
  rw [boundAt, Ne, List.filterMap_eq_nil_iff]
  simp [TagMap.mem_tags_iff, Option.isSome_iff_ne_none]

namespace Graph

variable {g : Graph} {items : Items} {rows : List Row} {entries : List Entry}

/-- **A document gathers the rows at a place**: it has the value of the place and, for each tag that
some row there binds and no other, a field with the values that the tag takes over these rows, each
once, in the order in which they first appear. -/
structure Gathers (g : Graph) (rows : List Row) (place : Position) (d : Document) : Prop where
  id : g.valueAt place = .ok d.id
  present : ∀ t, t ∈ d.fields.tags ↔ ∃ r ∈ rows, r.position = place ∧ t ∈ r.tags.tags
  values : ∀ t field, d.fields.find? t = some field → field ≠ [] ∧
    ∃ values : List Value, (boundAt rows place t).map g.valueAt = values.map .ok ∧
      field = values.eraseDups

/-- Why documents cannot be made of some items: one of them is an error, or a value is not found
that a tag is bound to or that a row is at. -/
inductive Fails (g : Graph) (items : Items) (e : QueryError) : Prop
  | item (h : .error e ∈ items.toList)
  | tag {r : Row} {t : String} {p : Position} (hr : .ok r ∈ items.toList)
      (ht : r.tags.find? t = some p) (h : g.valueAt p = .error e)
  | place {r : Row} (hr : .ok r ∈ items.toList) (h : g.valueAt r.position = .error e)

/-- An item as documents see it. -/
def entry (g : Graph) (item : Item) : Except QueryError Entry :=
  item.bind fun r => (g.tagValues r).map (r.position, ·)

/-- A row and what documents see of it. -/
def Sees (g : Graph) (r : Row) (entry : Entry) : Prop :=
  r.position = entry.1 ∧ g.tagValues r = .ok entry.2

/-- Documents are made of the groups of all entries. -/
theorem documents_eq : g.documents items = items.toList.mapM g.entry >>= fun entries =>
    (entries.foldl (fun groups entry => addToGroup entry.1 entry.2 groups) []).mapM g.document := by
  have hadd : g.addItem = fun groups item =>
      (g.entry item).map fun entry => addToGroup entry.1 entry.2 groups := by
    funext groups item
    cases item with
    | error e => rfl
    | ok r =>
      show (g.tagValues r >>= _) = ((g.tagValues r).map _).map _
      cases g.tagValues r <;> rfl
  rw [documents, LazyList.foldlM_eq, hadd, foldlM_map_eq]
  cases items.toList.mapM g.entry <;> rfl

theorem entry_eq_ok_iff {item : Item} {x : Entry} :
    g.entry item = .ok x ↔ ∃ r, item = .ok r ∧ g.Sees r x := by
  cases item with
  | error e => simp [entry, Except.bind]
  | ok r =>
    simp only [entry, Except.bind, map_ok_iff, Except.ok.injEq, exists_eq_left', Sees]
    constructor
    · rintro ⟨bindings, h, rfl⟩
      exact ⟨rfl, h⟩
    · rintro ⟨hplace, h⟩
      exact ⟨x.2, h, by rw [hplace]⟩

/-- If there are entries, they are those of rows. -/
theorem exists_rows_of_entries (h : items.toList.mapM g.entry = .ok entries) :
    ∃ rows, items.Lists rows ∧ List.Forall₂ g.Sees rows entries := by
  have hentries := mapM_ok_iff_forall₂.1 h
  unfold Items.Lists
  generalize items.toList = list at hentries
  clear h
  induction hentries with
  | nil => exact ⟨[], rfl, .nil⟩
  | cons hitem _ ih =>
    obtain ⟨r, rfl, hr⟩ := entry_eq_ok_iff.1 hitem
    obtain ⟨rows, rfl, hrows⟩ := ih
    exact ⟨r :: rows, rfl, .cons hr hrows⟩

section Entries

variable (h : List.Forall₂ g.Sees rows entries)

include h

theorem places_of_entries : entries.map Prod.fst = rows.map (·.position) := by
  induction h with
  | nil => rfl
  | cons hr _ ih => rw [List.map_cons, List.map_cons, ih, hr.1]

/-- The values of a tag are those of the places to which the rows bind it. -/
theorem values_of_entries (place : Position) (t : String) :
    (boundAt rows place t).map g.valueAt = (valuesAt entries place t).map .ok := by
  induction h with
  | nil => rfl
  | @cons r entry rows entries hr _ ih =>
    have hfind := TagMap.find?_of_traverse hr.2 t
    unfold boundAt valuesAt at ih ⊢
    by_cases hplace : r.position = place
    · rw [List.filter_cons_of_pos (by simpa using hplace),
        List.filter_cons_of_pos (by simpa [← hr.1] using hplace)]
      cases ht : r.tags.find? t <;> cases ht' : entry.2.find? t <;> simp_all
    · rw [List.filter_cons_of_neg (by simpa using hplace),
        List.filter_cons_of_neg (by simpa [← hr.1] using hplace), ih]

/-- The document of a group gathers the rows at its place. -/
theorem gathers_of_group {groups : List Group} (hgroups : Groups entries groups) {group : Group}
    (hgroup : group ∈ groups) {d : Document} (hd : g.document group = .ok d) :
    g.Gathers rows group.1 d := by
  obtain ⟨id, hid, hd⟩ := bind_ok_iff.1 hd
  cases hd
  have hvalues := values_of_entries h group.1
  have hfield (t : String) : group.2.find? t = fieldOf (valuesAt entries group.1 t) :=
    hgroups.find?_of_mem hgroup t
  refine ⟨hid, fun t => ?_, fun t field hf => ?_⟩
  · have hnil : boundAt rows group.1 t = [] ↔ valuesAt entries group.1 t = [] := by
      rw [← List.map_eq_nil_iff, hvalues t, List.map_eq_nil_iff]
    rw [← boundAt_ne_nil_iff, Ne, hnil, TagMap.mem_tags_iff, hfield]
    cases valuesAt entries group.1 t <;> simp [fieldOf]
  · rw [hfield] at hf
    cases hv : valuesAt entries group.1 t with
    | nil => simp [hv, fieldOf] at hf
    | cons v vs =>
      rw [hv] at hf
      obtain rfl : (v :: vs).eraseDups = field := by simpa [fieldOf] using hf
      exact ⟨by simp [List.eraseDups_cons], v :: vs, hv ▸ hvalues t, rfl⟩

end Entries

/-! ### Documents or one error -/

/-- If there are documents, they gather the rows at the places where there are rows, one document
for each place. -/
theorem gathers_of_documents {ds : List Document} (h : g.documents items = .ok ds) :
    ∃ rows, items.Lists rows ∧ List.Forall₂ (g.Gathers rows) (seenPlaces rows) ds ∧
      ∀ r ∈ rows, ∃ bindings, g.tagValues r = .ok bindings := by
  rw [documents_eq] at h
  obtain ⟨entries, hentries, hds⟩ := bind_ok_iff.1 h
  obtain ⟨rows, hrows, hsees⟩ := exists_rows_of_entries hentries
  have hgroups := groups_foldl entries
  have hplaces := hgroups.places
  rw [places_of_entries hsees] at hplaces
  refine ⟨rows, hrows, ?_, fun r hr => ?_⟩
  · rw [seenPlaces, ← hplaces, List.forall₂_map_left_iff]
    have hall := (List.forall₂_and_left _ _).2
      ⟨fun group hgroup => hgroup, mapM_ok_iff_forall₂.1 hds⟩
    exact hall.imp fun group d hd => gathers_of_group hsees hgroups hd.1 hd.2
  · obtain ⟨entry, -, -, hbindings⟩ := exists_right_of_forall₂ hsees hr
    exact ⟨entry.2, hbindings⟩

/-- If there are none, that is because of an item or of a value that is not found. -/
theorem fails_of_documents {e : QueryError} (h : g.documents items = .error e) :
    g.Fails items e := by
  rw [documents_eq] at h
  cases hentries : items.toList.mapM g.entry with
  | error e' =>
    rw [hentries] at h
    cases h
    obtain ⟨item, hitem, hfailure⟩ := List.exists_of_findSome?_eq_some
      (mapM_eq_error_iff.1 hentries)
    cases item with
    | error e' =>
      cases hfailure
      exact .item hitem
    | ok r =>
      cases htags : g.tagValues r with
      | ok bindings => simp [entry, Except.bind, htags, Except.map, failure?] at hfailure
      | error e' =>
        obtain rfl : e' = e := by
          simpa [entry, Except.bind, htags, Except.map, failure?] using hfailure
        obtain ⟨t, p, ht, hp⟩ := TagMap.exists_of_traverse_eq_error htags
        exact .tag hitem ht hp
  | ok entries =>
    rw [hentries] at h
    obtain ⟨rows, hrows, hsees⟩ := exists_rows_of_entries hentries
    obtain ⟨group, hgroup, hfailure⟩ := List.exists_of_findSome?_eq_some (mapM_eq_error_iff.1 h)
    have hplace : group.1 ∈ rows.map (·.position) := by
      rw [← places_of_entries hsees, ← List.mem_eraseDups, ← (groups_foldl entries).places]
      exact List.mem_map_of_mem hgroup
    obtain ⟨r, hr, hposition⟩ := List.mem_map.1 hplace
    refine .place (hrows.mem_iff.2 hr) ?_
    rw [hposition]
    cases hvalue : g.valueAt group.1 <;> simp_all [document, failure?, bind, Except.bind, pure,
      Except.pure]

/-- Where there are documents, nothing fails. -/
theorem not_fails_of_documents {ds : List Document} (h : g.documents items = .ok ds)
    (e : QueryError) : ¬ g.Fails items e := by
  obtain ⟨rows, hrows, hgathers, hbindings⟩ := gathers_of_documents h
  intro hfails
  cases hfails with
  | item he =>
    rw [show items.toList = rows.map .ok from hrows] at he
    simp at he
  | @tag r t p hr ht hp =>
    obtain ⟨bindings, hb⟩ := hbindings r (hrows.mem_iff.1 hr)
    have hfind := TagMap.find?_of_traverse hb t
    rw [ht, Option.map_some, hp] at hfind
    cases hv : bindings.find? t <;> simp [hv] at hfind
  | @place r hr hp =>
    have hplace : r.position ∈ seenPlaces rows :=
      List.mem_eraseDups.2 (List.mem_map_of_mem (hrows.mem_iff.1 hr))
    obtain ⟨d, -, hd⟩ := exists_right_of_forall₂ hgathers hplace
    rw [hd.id] at hp
    cases hp

/-- **Documents are all or one error.** Of any items, what is reported is either one error and
nothing else, or one document for each place where there are rows, in the order in which the places
first appear, which gathers the rows there. The former is so exactly if something fails: if there is
an error among the items, or if a value is not found that a tag is bound to or that a row is at. -/
theorem answers_documents (g : Graph) (items : Unit → Items) :
    (∃ e, g.Fails (items ()) e ∧ (g.answers .documents items).toList = [.error e]) ∨
    (∀ e, ¬ g.Fails (items ()) e) ∧ ∃ rows ds, (items ()).Lists rows ∧
      (g.answers .documents items).toList = ds.map (fun d => .ok (.document d)) ∧
      List.Forall₂ (g.Gathers rows) (seenPlaces rows) ds := by
  rw [answers]
  cases h : g.documents (items ()) with
  | error e => exact .inl ⟨e, fails_of_documents h, LazyList.toList_ofList _⟩
  | ok ds =>
    obtain ⟨rows, hrows, hgathers, -⟩ := gathers_of_documents h
    exact .inr ⟨not_fails_of_documents h, rows, ds, hrows, LazyList.toList_ofList _, hgathers⟩

end Graph

end QuadWalk
