import QuadWalk.Proofs.Meaning
import QuadWalk.Proofs.Rows
import QuadWalk.Proofs.TagMap

/-!
# Where the tags of rows come from

Most steps take each of their rows from a row of their origin and do no more to its tags than to add
some of their own (`Step.origin?`, `Step.exists_origin_row`). What is left are the steps that begin
rows, unions, the steps that join rows with those of branches, and fragments. `Items.mem_join` says
of a join which rows it is made of: the tags of the first row of each branch are laid over those of
the row for which the branches are run, whatever the branches did to them.
-/

namespace QuadWalk

/-! ### Rows that are marked -/

/-- A row comes from another one by binding some tags; all others are as they were. -/
structure Row.Marked (marks : List String) (r₀ r : Row) : Prop where
  bound : ∀ t ∈ marks, (r.tags.find? t).isSome = true
  kept : ∀ t ∉ marks, r.tags.find? t = r₀.tags.find? t

namespace Row

theorem tags_of_back? {r r' : Row} (h : r.back? = some r') : r'.tags = r.tags := by
  unfold back? at h
  split at h
  · simp at h
  · cases h
    rfl

theorem tags_of_backTo? {r r' : Row} {tag : String} (h : r.backTo? tag = some r') :
    r'.tags = r.tags := by
  obtain ⟨p, -, rfl⟩ := Option.map_eq_some_iff.1 h
  rfl

namespace Marked

variable {marks more : List String} {r₀ r₁ r₂ r : Row}

theorem of_tags_eq (h : r.tags = r₀.tags) : Marked [] r₀ r where
  bound := by simp
  kept := by simp [h]

theorem of_insert {tag : String} {p : Position} (h : r.tags = r₀.tags.insert tag p) :
    Marked [tag] r₀ r where
  bound := by simp [h]
  kept := by
    intro t ht
    rw [h, TagMap.find?_insert, if_neg (by simpa using ht)]

theorem trans (h : Marked marks r₀ r₁) (h' : Marked more r₁ r₂) :
    Marked (marks ++ more) r₀ r₂ where
  bound := by
    intro t ht
    by_cases hm : t ∈ more
    · exact h'.bound t hm
    · have ht : t ∈ marks := (List.mem_append.1 ht).resolve_right hm
      rw [h'.kept t hm]
      exact h.bound t ht
  kept := by
    intro t ht
    obtain ⟨hmarks, hmore⟩ : t ∉ marks ∧ t ∉ more := by simpa using ht
    rw [h'.kept t hmore, h.kept t hmarks]

end Marked

end Row

/-! ### Walks and marks on a graph -/

namespace Graph

variable {g : Graph} {r r' : Row} {rows : List Row}

/-- Rows that are made of the nodes that a store answers, if it does. -/
theorem exists_of_mem_map_ofStore {answer : Except StoreError (List NodeId)} {f : NodeId → Row}
    (h : (ofStore answer).map (fun ids => ids.map f) = .ok rows) (hr : r' ∈ rows) :
    ∃ id, r' = f id := by
  cases ha : ofStore answer with
  | error e => simp [ha, Except.map] at h
  | ok ids =>
    simp only [ha, Except.map, Except.ok.injEq] at h
    subst h
    obtain ⟨id, -, rfl⟩ := List.mem_map.1 hr
    exact ⟨id, rfl⟩

/-- A walk moves its row to nodes. -/
theorem exists_of_mem_walk {t : Traversal} {predicates : NodeSet}
    (h : g.walk t predicates r = .ok rows) (hr : r' ∈ rows) : ∃ id, r' = r.moveTo id := by
  unfold walk at h
  split at h
  · cases h
    simp at hr
  · rename_i id _
    cases hd : t.directions.mapM fun d => ofStore (g.neighbors id predicates d) with
    | error e => simp [hd, bind, Except.bind] at h
    | ok reached =>
      simp only [hd, bind, Except.bind, pure, Except.pure, Except.ok.injEq] at h
      subst h
      obtain ⟨id, -, rfl⟩ := List.mem_map.1 hr
      exact ⟨id, rfl⟩

theorem exists_of_mem_walkToPredicates {d : Direction} (h : g.walkToPredicates d r = .ok rows)
    (hr : r' ∈ rows) : ∃ id, r' = r.moveTo id := by
  unfold walkToPredicates at h
  split at h
  · cases h
    simp at hr
  · exact exists_of_mem_map_ofStore h hr

/-- What is saved is bound to nodes. -/
theorem exists_of_mem_save {d : Direction} {predicates : NodeSet} {tag : String}
    (h : g.save d predicates tag r = .ok rows) (hr : r' ∈ rows) : ∃ id, r' = r.bind tag id := by
  unfold save at h
  split at h
  · cases h
    simp at hr
  · exact exists_of_mem_map_ofStore h hr

theorem exists_of_mem_savePredicates {d : Direction} {tag : String}
    (h : g.savePredicates d tag r = .ok rows) (hr : r' ∈ rows) : ∃ id, r' = r.bind tag id := by
  unfold savePredicates at h
  split at h
  · cases h
    simp at hr
  · exact exists_of_mem_map_ofStore h hr

end Graph

/-! ### Joins -/

namespace Items

/-- Some tags with those of some rows laid over them, one row after the other. -/
def layer (tags : TagMap Position) (firsts : List Row) : TagMap Position :=
  firsts.foldl (fun tags m => tags.overlay m.tags) tags

theorem layer_append (tags : TagMap Position) (ms ns : List Row) :
    layer tags (ms ++ ns) = layer (layer tags ms) ns := by
  simp [layer]

/-- What a tag is bound to after a layer: what the last row that binds it says. -/
theorem find?_layer (tags : TagMap Position) (firsts : List Row) (t : String) :
    (layer tags firsts).find? t =
      (firsts.reverse.findSome? fun m => m.tags.find? t).or (tags.find? t) := by
  induction firsts generalizing tags with
  | nil => simp [layer]
  | cons m firsts ih =>
    have step : layer tags (m :: firsts) = layer (tags.overlay m.tags) firsts := rfl
    rw [step, ih, TagMap.find?_overlay, List.reverse_cons, List.findSome?_append, Option.or_assoc]
    simp

/-- The rows are the first ones of some branches. -/
def Firsts (branches : List (Unit → Items)) (firsts : List Row) : Prop :=
  branches.map (fun b => (b ()).head?) = firsts.map fun m => some (.ok m)

theorem firsts_append_iff {as bs : List (Unit → Items)} {firsts : List Row} :
    Firsts (as ++ bs) firsts ↔ ∃ ms ns, firsts = ms ++ ns ∧ Firsts as ms ∧ Firsts bs ns := by
  unfold Firsts
  rw [List.map_append]
  constructor
  · intro h
    obtain ⟨ms, ns, rfl, hms, hns⟩ := List.map_eq_append_iff.1 h.symm
    exact ⟨ms, ns, rfl, hms.symm, hns.symm⟩
  · rintro ⟨ms, ns, rfl, hms, hns⟩
    rw [List.map_append, hms, hns]

theorem firsts_cons_iff {b : Unit → Items} {bs : List (Unit → Items)} {firsts : List Row} :
    Firsts (b :: bs) firsts ↔
      ∃ m ms, firsts = m :: ms ∧ (b ()).head? = some (.ok m) ∧ Firsts bs ms := by
  unfold Firsts
  constructor
  · intro h
    obtain ⟨m, ms, rfl, hm, hms⟩ := List.map_eq_cons_iff.1 h.symm
    exact ⟨m, ms, rfl, hm.symm, hms.symm⟩
  · rintro ⟨m, ms, rfl, hm, hms⟩
    rw [List.map_cons, List.map_cons, hm, hms]

/-- Branches have joined tags if each of them has a first row. -/
theorem joinTags_eq_ok_some {tags tags' : TagMap Position} {branches : List (Unit → Items)} :
    joinTags tags branches = .ok (some tags') ↔
      ∃ firsts, Firsts branches firsts ∧ tags' = layer tags firsts := by
  induction branches generalizing tags with
  | nil =>
    constructor
    · intro h
      cases h
      exact ⟨[], rfl, rfl⟩
    · rintro ⟨firsts, hf, rfl⟩
      cases List.map_eq_nil_iff.1 hf.symm
      rfl
  | cons b branches ih =>
    unfold joinTags
    constructor
    · intro h
      split at h
      · simp at h
      · simp at h
      · rename_i m hm
        obtain ⟨firsts, hf, rfl⟩ := ih.1 h
        exact ⟨m :: firsts, firsts_cons_iff.2 ⟨m, firsts, rfl, hm, hf⟩, rfl⟩
    · rintro ⟨_, hf, rfl⟩
      obtain ⟨m, firsts, rfl, hm, hrest⟩ := firsts_cons_iff.1 hf
      rw [hm]
      exact ih.2 ⟨firsts, hrest, rfl⟩

/-- A join yields the row with the tags of the first row of each branch over its own or, if it is
optional, the row as it is. -/
theorem mem_join {isOptional : Bool} {r r' : Row} {branches : List (Unit → Items)}
    {rows : List Row} (h : join isOptional r branches = .ok rows) (hr : r' ∈ rows) :
    (∃ firsts, Firsts branches firsts ∧ r' = { r with tags := layer r.tags firsts }) ∨
      isOptional = true ∧ r' = r := by
  unfold join at h
  cases hj : joinTags r.tags branches with
  | error e => simp [hj, Except.map] at h
  | ok joined =>
    simp only [hj, Except.map, Except.ok.injEq] at h
    subst h
    cases joined with
    | none =>
      cases isOptional with
      | false => simp at hr
      | true => exact .inr ⟨rfl, by simpa using hr⟩
    | some tags =>
      obtain ⟨firsts, hf, rfl⟩ := joinTags_eq_ok_some.1 hj
      exact .inl ⟨firsts, hf, by simpa using hr⟩

/-- A first row is a row of a branch. -/
theorem Firsts.exists_branch {branches : List (Unit → Items)} {firsts : List Row} {m : Row}
    (h : Firsts branches firsts) (hm : m ∈ firsts) :
    ∃ b ∈ branches, (b ()).head? = some (.ok m) := by
  have hmem : some (.ok m) ∈ branches.map fun b => (b ()).head? := by
    rw [h]
    exact List.mem_map.2 ⟨m, hm, rfl⟩
  obtain ⟨b, hb, hhead⟩ := List.mem_map.1 hmem
  exact ⟨b, hb, hhead⟩

/-- Each branch has a first row. -/
theorem Firsts.exists_first {branches : List (Unit → Items)} {firsts : List Row} {b : Unit → Items}
    (h : Firsts branches firsts) (hb : b ∈ branches) :
    ∃ m ∈ firsts, (b ()).head? = some (.ok m) := by
  have hmem : (b ()).head? ∈ firsts.map fun m => some (.ok m) := by
    rw [← h]
    exact List.mem_map.2 ⟨b, hb, rfl⟩
  obtain ⟨m, hm, hhead⟩ := List.mem_map.1 hmem
  exact ⟨m, hm, hhead.symm⟩

theorem mem_of_head? {items : Items} {item : Item} (h : items.head? = some item) :
    item ∈ items.toList := by
  rw [← LazyList.head?_toList] at h
  exact List.mem_of_head? h

end Items

/-! ### Steps that go row by row -/

namespace Step

open Items

/-- The origin of a step that takes each of its rows from a row of the origin, and the tags with
which it marks them. -/
def origin? : Step → Option (Step × List String)
  | visit _ o _ | back o | backTo o _ | propertyNames _ o | has _ o _ _ | isOneOf o _
  | combine .intersect o _ | combine .difference o _ | filter o _ | compare _ o _ | limit o _
  | skip o _ | unique o | order o | select o _ | selectFirst o | documents o => some (o, [])
  | properties _ o names => some (o, names)
  | propertyNamesAs _ o tag | tagged o tag => some (o, [tag])
  | entities _ | vertex _ | placeholder | combine .union _ _ | count _ | whereAll _ _
  | optional _ _ | follow _ _ => none

/-- Whether the rows of a step have nothing of those for which its placeholder stands. -/
def startsFresh : Step → Bool
  | entities _ | vertex _ | count _ => true
  | placeholder => false
  | visit _ o _ | back o | backTo o _ | properties _ o _ | propertyNames _ o
  | propertyNamesAs _ o _ | has _ o _ _ | isOneOf o _ | combine _ o _ | filter o _ | compare _ o _
  | limit o _ | skip o _ | unique o | order o | tagged o _ | whereAll o _ | optional o _
  | select o _ | selectFirst o | documents o => startsFresh o
  | follow o s => startsFresh s || startsFresh o

variable {sizeLimit : Nat} {g : Graph} {s o : Step} {marks : List String}

/-- A first row of some steps is that of one of them. -/
theorem exists_step_of_firsts {ss : List Step} {ph : Items} {firsts : List Row} {m : Row}
    (hf : Firsts (meaningEach sizeLimit g ss ph) firsts) (hm : m ∈ firsts) :
    ∃ s ∈ ss, (s.meaning sizeLimit g ph).head? = some (.ok m) := by
  rw [meaningEach_eq_map] at hf
  obtain ⟨_, hbranch, hhead⟩ := hf.exists_branch hm
  obtain ⟨s, hs, rfl⟩ := List.mem_map.1 hbranch
  exact ⟨s, hs, hhead⟩

/-- Each of some steps has one of their first rows. -/
theorem exists_first_of_step {ss : List Step} {ph : Items} {firsts : List Row}
    (hf : Firsts (meaningEach sizeLimit g ss ph) firsts) (hs : s ∈ ss) :
    ∃ m ∈ firsts, (s.meaning sizeLimit g ph).head? = some (.ok m) := by
  rw [meaningEach_eq_map] at hf
  exact hf.exists_first (List.mem_map.2 ⟨s, hs, rfl⟩)

theorem sizeOf_lt_of_origin (h : s.origin? = some (o, marks)) : sizeOf o < sizeOf s := by
  revert h
  fun_cases origin? s <;> simp <;> rintro rfl - <;> omega

theorem startsFresh_of_origin (h : s.origin? = some (o, marks)) :
    s.startsFresh = o.startsFresh := by
  revert h
  fun_cases origin? s <;> simp [startsFresh] <;> rintro rfl - <;> rfl

/-- Properties mark each row with all of their names. -/
theorem exists_row_of_foldl_save {d : Direction} {names : List String} {items : Items} {r : Row}
    (h : .ok r ∈ (names.foldl (fun items name =>
      expand (g.save d (.ofList (g.lookupAll [.iri name])) name) items) items).toList) :
    ∃ r₀, .ok r₀ ∈ items.toList ∧ Row.Marked names r₀ r := by
  induction names generalizing items with
  | nil => exact ⟨r, h, .of_tags_eq rfl⟩
  | cons name names ih =>
    obtain ⟨r₁, h₁, marked⟩ := ih h
    obtain ⟨r₀, rows, h₀, hsave, hr⟩ := mem_expand.1 h₁
    obtain ⟨id, rfl⟩ := Graph.exists_of_mem_save hsave hr
    exact ⟨r₀, h₀, (Row.Marked.of_insert rfl).trans marked⟩

/-- **A step that goes row by row takes each row from one of its origin, and marks it.** -/
theorem exists_origin_row (h : s.origin? = some (o, marks)) {ph : Items} {r : Row}
    (hr : .ok r ∈ (s.meaning sizeLimit g ph).toList) :
    ∃ r₀, .ok r₀ ∈ (o.meaning sizeLimit g ph).toList ∧ Row.Marked marks r₀ r := by
  cases s with
  | visit t _ property =>
    cases h
    obtain ⟨predicates, -, hr⟩ := mem_drain.1 hr
    obtain ⟨r₀, rows, h₀, hwalk, hr⟩ := mem_expand.1 hr
    obtain ⟨id, rfl⟩ := Graph.exists_of_mem_walk hwalk hr
    exact ⟨r₀, h₀, .of_tags_eq rfl⟩
  | back _ =>
    cases h
    obtain ⟨r₀, h₀, hback⟩ := mem_change.1 hr
    exact ⟨r₀, h₀, .of_tags_eq (Row.tags_of_back? hback)⟩
  | backTo _ tag =>
    cases h
    obtain ⟨r₀, h₀, hback⟩ := mem_change.1 hr
    exact ⟨r₀, h₀, .of_tags_eq (Row.tags_of_backTo? hback)⟩
  | properties d _ names =>
    cases h
    exact exists_row_of_foldl_save hr
  | propertyNames d _ =>
    cases h
    obtain ⟨r₀, rows, h₀, hwalk, hr⟩ := mem_expand.1 (mem_of_mem_unique hr)
    obtain ⟨id, rfl⟩ := Graph.exists_of_mem_walkToPredicates hwalk hr
    exact ⟨r₀, h₀, .of_tags_eq rfl⟩
  | propertyNamesAs d _ tag =>
    cases h
    obtain ⟨r₀, rows, h₀, hsave, hr⟩ := mem_expand.1 hr
    obtain ⟨id, rfl⟩ := Graph.exists_of_mem_savePredicates hsave hr
    exact ⟨r₀, h₀, .of_insert rfl⟩
  | tagged _ name =>
    cases h
    obtain ⟨r₀, h₀, hmark⟩ := mem_change.1 hr
    cases hmark
    exact ⟨r₀, h₀, .of_insert rfl⟩
  | has d _ property values =>
    cases h
    obtain ⟨predicates, -, hr⟩ := mem_drain.1 hr
    exact ⟨r, (mem_keep.1 hr).1, .of_tags_eq rfl⟩
  | isOneOf _ values =>
    cases h
    exact ⟨r, mem_isOneOf hr, .of_tags_eq rfl⟩
  | combine operation _ steps =>
    cases operation with
    | union => simp [origin?] at h
    | intersect =>
      cases h
      exact ⟨r, mem_of_mem_siftBy hr, .of_tags_eq rfl⟩
    | difference =>
      cases h
      exact ⟨r, mem_of_mem_siftBy hr, .of_tags_eq rfl⟩
  | filter _ condition =>
    cases h
    obtain ⟨matcher, -, hr⟩ := mem_drain.1 hr
    exact ⟨r, (mem_keep.1 hr).1, .of_tags_eq rfl⟩
  | compare c _ operand =>
    cases h
    exact ⟨r, (mem_keep.1 hr).1, .of_tags_eq rfl⟩
  | limit _ n =>
    cases h
    exact ⟨r, mem_of_mem_limit hr, .of_tags_eq rfl⟩
  | skip _ n =>
    cases h
    exact ⟨r, mem_of_mem_skip hr, .of_tags_eq rfl⟩
  | unique _ =>
    cases h
    exact ⟨r, mem_of_mem_unique hr, .of_tags_eq rfl⟩
  | order _ =>
    cases h
    exact ⟨r, mem_of_mem_order hr, .of_tags_eq rfl⟩
  | select _ tags =>
    cases h
    exact ⟨r, hr, .of_tags_eq rfl⟩
  | selectFirst _ =>
    cases h
    exact ⟨r, hr, .of_tags_eq rfl⟩
  | documents _ =>
    cases h
    exact ⟨r, hr, .of_tags_eq rfl⟩
  | _ => simp [origin?] at h

end Step

end QuadWalk
