import QuadWalk.Proofs.Flow

/-!
# What rows are sure to have

Two things can be said of the rows of a plan without running it: whether their trails are empty, and
whether they bind a tag. `Plan.hopState` says the former where it can, and is right on any graph and
for all anchors (`Plan.allows_hopState`). Of the latter, `Plan.carries` says which ways lead only to
rows that bind a tag (`Plan.mem_tags_of_carries`).

Both rest on what an operator that goes row by row makes of a row (`Plan.exists_makes`): no tag is
unbound, and only walks and steps back touch the trail.
-/

namespace QuadWalk

/-! ### Tags -/

/-- A binding binds its tag and leaves no other tag unbound. -/
theorem Row.mem_tags_insert {r : Row} {tag : String} {p : Position} :
    tag ∈ (r.tags.insert tag p).tags ∧ ∀ t ∈ r.tags.tags, t ∈ (r.tags.insert tag p).tags := by
  simp only [TagMap.mem_tags_iff, TagMap.find?_insert, if_true, Option.isSome_some, true_and]
  intro t ht
  split
  · rfl
  · exact ht

/-- Tags laid over others by some rows are those of the rows and those others. -/
theorem Items.mem_tags_layer {tags : TagMap Position} {firsts : List Row} {t : String} :
    t ∈ (layer tags firsts).tags ↔ (∃ m ∈ firsts, t ∈ m.tags.tags) ∨ t ∈ tags.tags := by
  induction firsts generalizing tags with
  | nil => simp [layer]
  | cons m firsts ih =>
    have step : layer tags (m :: firsts) = layer (tags.overlay m.tags) firsts := rfl
    have hover : t ∈ (tags.overlay m.tags).tags ↔ t ∈ m.tags.tags ∨ t ∈ tags.tags := by
      simp only [TagMap.mem_tags_iff, TagMap.find?_overlay, Option.isSome_or, Bool.or_eq_true]
    simp [step, ih, hover, or_left_comm, or_assoc]

namespace Plan

open Items QuadWalk.Graph

variable {g : Graph} {anchors : Anchors} {p o : Plan} {r : Row}

/-! ### Rows that come from rows of the origin -/

/-- The origin of an operator that makes each of its rows from one row of that. -/
def rowOrigin? : Plan → Option Plan
  | hop _ p _ | predicates _ p | save _ p _ _ | savePredicates _ p _ | has _ p _ _ | isOneOf p _
  | filter p _ | compare _ p _ | back p | backTo p _ | tag p _ | intersect p _ | difference p _
  | whereAll p _ _ | optional p _ _ | limit p _ | skip p _ | unique p | order p => some p
  | fixed _ | allNodes | anchor _ | union _ _ | count _ => none

/-- Whether an operator leaves its rows where they are. -/
def keepsPlace : Plan → Bool
  | hop _ _ _ | predicates _ _ | back _ | backTo _ _ => false
  | _ => true

theorem sizeOf_lt_of_rowOrigin (h : p.rowOrigin? = some o) : sizeOf o < sizeOf p := by
  revert h
  fun_cases rowOrigin? p <;> simp <;> rintro rfl <;> omega

/-- What an operator that goes row by row makes of a row, besides dropping it or keeping it as it
is. -/
def Makes : Plan → Row → Row → Prop
  | hop _ _ _, r₀, r | predicates _ _, r₀, r => ∃ id, r = r₀.moveTo id
  | back _, r₀, r => r₀.back? = some r
  | backTo _ name, r₀, r => r₀.backTo? name = some r
  | tag _ name, r₀, r => r = r₀.mark name
  | save _ _ _ name, r₀, r | savePredicates _ _ name, r₀, r => ∃ id, r = r₀.bind name id
  | whereAll _ _ _, r₀, r | optional _ _ _, r₀, r =>
    ∃ firsts, r = { r₀ with tags := layer r₀.tags firsts }
  | _, r₀, r => r = r₀

/-- A join lays the tags of rows over those of its own; if there is nothing to join, those of none.
-/
theorem exists_firsts_of_mem_join {isOptional : Bool} {r₀ : Row} {branches : List (Unit → Items)}
    {rows : List Row} (h : join isOptional r₀ branches = .ok rows) (hr : r ∈ rows) :
    ∃ firsts, r = { r₀ with tags := layer r₀.tags firsts } := by
  rcases mem_join h hr with ⟨firsts, -, rfl⟩ | ⟨-, rfl⟩
  · exact ⟨firsts, rfl⟩
  · exact ⟨[], rfl⟩

/-- **Operators that go row by row make each row of one row of their origin.** -/
theorem exists_makes (h : p.rowOrigin? = some o) (hr : .ok r ∈ (p.items g anchors).toList) :
    ∃ r₀, .ok r₀ ∈ (o.items g anchors).toList ∧ p.Makes r₀ r := by
  cases p with
  | hop t _ via =>
    cases h
    obtain ⟨predicates, -, hr⟩ := mem_drain.1 hr
    obtain ⟨r₀, rows, h₀, hwalk, hr⟩ := mem_expand.1 hr
    exact ⟨r₀, h₀, exists_of_mem_walk hwalk hr⟩
  | predicates d _ =>
    cases h
    obtain ⟨r₀, rows, h₀, hwalk, hr⟩ := mem_expand.1 hr
    exact ⟨r₀, h₀, exists_of_mem_walkToPredicates hwalk hr⟩
  | save d _ v tag =>
    cases h
    obtain ⟨r₀, rows, h₀, hsave, hr⟩ := mem_expand.1 hr
    exact ⟨r₀, h₀, exists_of_mem_save hsave hr⟩
  | savePredicates d _ tag =>
    cases h
    obtain ⟨r₀, rows, h₀, hsave, hr⟩ := mem_expand.1 hr
    exact ⟨r₀, h₀, exists_of_mem_savePredicates hsave hr⟩
  | has d _ via values =>
    cases h
    obtain ⟨predicates, -, hr⟩ := mem_drain.1 hr
    exact ⟨r, (mem_keep.1 hr).1, rfl⟩
  | isOneOf _ values =>
    cases h
    exact ⟨r, mem_isOneOf hr, rfl⟩
  | filter _ matcher =>
    cases h
    exact ⟨r, (mem_keep.1 hr).1, rfl⟩
  | compare c _ operand =>
    cases h
    exact ⟨r, (mem_keep.1 hr).1, rfl⟩
  | back _ =>
    cases h
    exact mem_change.1 hr
  | backTo _ tag =>
    cases h
    exact mem_change.1 hr
  | tag _ name =>
    cases h
    obtain ⟨r₀, h₀, hmark⟩ := mem_change.1 hr
    cases hmark
    exact ⟨r₀, h₀, rfl⟩
  | intersect _ bs =>
    cases h
    exact ⟨r, mem_of_mem_siftBy hr, rfl⟩
  | difference _ bs =>
    cases h
    exact ⟨r, mem_of_mem_siftBy hr, rfl⟩
  | whereAll _ a bs =>
    cases h
    obtain ⟨r₀, rows, h₀, hjoin, hr⟩ := mem_expand.1 hr
    exact ⟨r₀, h₀, exists_firsts_of_mem_join hjoin hr⟩
  | optional _ a b =>
    cases h
    obtain ⟨r₀, rows, h₀, hjoin, hr⟩ := mem_expand.1 hr
    exact ⟨r₀, h₀, exists_firsts_of_mem_join hjoin hr⟩
  | limit _ n =>
    cases h
    exact ⟨r, mem_of_mem_limit hr, rfl⟩
  | skip _ n =>
    cases h
    exact ⟨r, mem_of_mem_skip hr, rfl⟩
  | unique _ =>
    cases h
    exact ⟨r, mem_of_mem_unique hr, rfl⟩
  | order _ =>
    cases h
    exact ⟨r, mem_of_mem_order hr, rfl⟩
  | _ => simp [rowOrigin?] at h

section Makes

variable {r₀ : Row}

/-- No tag is unbound on the way. -/
theorem Makes.mem_tags (h : p.Makes r₀ r) : ∀ t ∈ r₀.tags.tags, t ∈ r.tags.tags := by
  revert h
  fun_cases Makes p r₀ r with
  | case1 | case2 =>
    rintro ⟨id, rfl⟩ t ht
    exact ht
  | case3 =>
    intro hback t ht
    rwa [Row.tags_of_back? hback]
  | case4 =>
    intro hback t ht
    rwa [Row.tags_of_backTo? hback]
  | case5 =>
    rintro rfl
    exact Row.mem_tags_insert.2
  | case6 | case7 =>
    rintro ⟨id, rfl⟩
    exact Row.mem_tags_insert.2
  | case8 | case9 =>
    rintro ⟨firsts, rfl⟩ t ht
    exact mem_tags_layer.2 (.inr ht)
  | case10 =>
    rintro rfl t ht
    exact ht

/-- Only walks and steps back change where a row is and what it can go back to. -/
theorem Makes.keeps (h : p.Makes r₀ r) (hp : p.keepsPlace = true) :
    r.position = r₀.position ∧ r.trail = r₀.trail := by
  revert h
  fun_cases Makes p r₀ r with
  | case1 | case2 | case3 | case4 => simp [keepsPlace] at hp
  | case5 =>
    rintro rfl
    exact ⟨rfl, rfl⟩
  | case6 | case7 | case8 | case9 =>
    rintro ⟨_, rfl⟩
    exact ⟨rfl, rfl⟩
  | case10 =>
    rintro rfl
    exact ⟨rfl, rfl⟩

end Makes

end Plan

/-! ### What is known of trails -/

/-- A row is as it is known to be. -/
def HopState.Allows : HopState → Row → Prop
  | present, r => r.trail ≠ []
  | absent, r => r.trail = []
  | unknown, _ => True

theorem HopState.Allows.of_trail_eq {h : HopState} {r r₀ : Row} (hr : h.Allows r₀)
    (htrail : r.trail = r₀.trail) : h.Allows r := by
  cases h with
  | present => exact fun hnil => hr (htrail.symm.trans hnil)
  | absent => exact htrail.trans hr
  | unknown => trivial

namespace Plan

open Items QuadWalk.Graph

variable {g : Graph} {anchors : Anchors} {p o : Plan} {r : Row}

theorem hopState_of_rowOrigin (h : p.rowOrigin? = some o) (hp : p.keepsPlace = true) :
    p.hopState = o.hopState := by
  revert h hp
  fun_cases rowOrigin? p <;> simp [keepsPlace, hopState] <;> rintro rfl <;> rfl

/-- **What is known of the traversals of a plan is so**, on any graph and for all anchors. -/
theorem allows_hopState {p : Plan} {r : Row} (hr : .ok r ∈ (p.items g anchors).toList) :
    p.hopState.Allows r := by
  cases hk : p.keepsPlace with
  | true =>
    cases ho : p.rowOrigin? with
    | some o =>
      have := sizeOf_lt_of_rowOrigin ho
      obtain ⟨r₀, h₀, hmakes⟩ := exists_makes ho hr
      rw [hopState_of_rowOrigin ho hk]
      exact (allows_hopState h₀).of_trail_eq (hmakes.keeps hk).2
    | none =>
      cases p with
      | fixed values =>
        obtain ⟨id, -, rfl⟩ := List.mem_map.1 (mem_ofRows.1 hr)
        rfl
      | allNodes =>
        obtain ⟨id, -, rfl⟩ := List.mem_map.1 (mem_ofRows.1 hr)
        rfl
      | anchor i => trivial
      | union _ bs => trivial
      | count _ =>
        obtain ⟨n, rfl⟩ := eq_of_mem_count hr
        rfl
      | _ => simp [rowOrigin?] at ho
  | false =>
    cases p with
    | hop t o via =>
      obtain ⟨r₀, -, id, rfl⟩ := exists_makes rfl hr
      exact List.cons_ne_nil _ _
    | predicates d o =>
      obtain ⟨r₀, -, id, rfl⟩ := exists_makes rfl hr
      exact List.cons_ne_nil _ _
    | back o => trivial
    | backTo o tag =>
      obtain ⟨r₀, -, hback⟩ := exists_makes rfl hr
      obtain ⟨place, -, rfl⟩ := Option.map_eq_some_iff.1 hback
      rfl
    | _ => simp [keepsPlace] at hk
termination_by sizeOf p

/-! ### Ways on which a tag is bound -/

/-- The tag that an operator binds to each of its rows. -/
def newTag? : Plan → Option String
  | save _ _ _ name | savePredicates _ _ name | tag _ name => some name
  | _ => none

theorem mem_tags_of_newTag {tag : String} (h : p.newTag? = some tag)
    (hr : .ok r ∈ (p.items g anchors).toList) : tag ∈ r.tags.tags := by
  cases p with
  | save d o v name =>
    cases h
    obtain ⟨r₀, -, id, rfl⟩ := exists_makes rfl hr
    exact Row.mem_tags_insert.1
  | savePredicates d o name =>
    cases h
    obtain ⟨r₀, -, id, rfl⟩ := exists_makes rfl hr
    exact Row.mem_tags_insert.1
  | tag o name =>
    cases h
    obtain ⟨r₀, -, rfl⟩ := exists_makes rfl hr
    exact Row.mem_tags_insert.1
  | _ => simp [newTag?] at h

mutual

/-- Whether every row of a plan is sure to bind a tag, given of which anchors that is known. A
condition passes a tag on that any of its branches is sure to bind, even if its origin may not; an
option passes on no more than its origin. -/
def carries (tag : String) : Plan → (AnchorId → Bool) → Bool
  | fixed _, _ | allNodes, _ | count _, _ => false
  | anchor i, known => known i
  | hop _ p _, known | predicates _ p, known | has _ p _ _, known | isOneOf p _, known
  | filter p _, known | compare _ p _, known | back p, known | backTo p _, known
  | intersect p _, known | difference p _, known | optional p _ _, known | limit p _, known
  | skip p _, known | unique p, known | order p, known => carries tag p known
  | save _ p _ name, known | savePredicates _ p name, known | .tag p name, known =>
    name == tag || carries tag p known
  | union p bs, known => carries tag p known && allCarry tag bs known
  | whereAll p a bs, known =>
    carries tag p known || anyCarries tag bs fun i => i != a && known i

/-- Whether every row of each of some plans is sure to bind a tag. -/
def allCarry (tag : String) : List Plan → (AnchorId → Bool) → Bool
  | [], _ => true
  | b :: bs, known => carries tag b known && allCarry tag bs known

/-- Whether every row of any of some plans is sure to bind a tag. -/
def anyCarries (tag : String) : List Plan → (AnchorId → Bool) → Bool
  | [], _ => false
  | b :: bs, known => carries tag b known || anyCarries tag bs known

end

theorem allCarry_iff {tag : String} {bs : List Plan} {known : AnchorId → Bool} :
    allCarry tag bs known = true ↔ ∀ b ∈ bs, b.carries tag known = true := by
  induction bs with
  | nil => simp [allCarry]
  | cons b bs ih => simp [allCarry, ih]

theorem anyCarries_iff {tag : String} {bs : List Plan} {known : AnchorId → Bool} :
    anyCarries tag bs known = true ↔ ∃ b ∈ bs, b.carries tag known = true := by
  induction bs with
  | nil => simp [anyCarries]
  | cons b bs ih => simp [anyCarries, ih]

end Plan

/-- The anchors of which it is known have rows that bind a tag. -/
def Anchors.Bind (tag : String) (known : AnchorId → Bool) (anchors : Anchors) : Prop :=
  ∀ i r, anchors.lookup i = some r → known i = true → tag ∈ r.tags.tags

theorem Anchors.Bind.cons {tag : String} {known : AnchorId → Bool} {anchors : Anchors}
    (h : anchors.Bind tag known) (a : AnchorId) (r : Row) :
    Anchors.Bind tag (fun i => i != a && known i) ((a, r) :: anchors) := by
  intro i r' hlookup hi
  obtain ⟨hne, hknown⟩ : i ≠ a ∧ known i = true := by simpa using hi
  rw [List.lookup_cons, beq_eq_false_iff_ne.2 hne] at hlookup
  exact h i r' hlookup hknown

namespace Plan

open Items

variable {g : Graph}

/-- **What a plan is sure to bind, its rows bind**, on any graph. -/
theorem mem_tags_of_carries {p : Plan} {tag : String} {known : AnchorId → Bool} {anchors : Anchors}
    {r : Row} (h : p.carries tag known = true) (hknown : anchors.Bind tag known)
    (hr : .ok r ∈ (p.items g anchors).toList) : tag ∈ r.tags.tags := by
  have of_origin {o : Plan} (ho : p.rowOrigin? = some o) (h : o.carries tag known = true) :
      tag ∈ r.tags.tags := by
    have := sizeOf_lt_of_rowOrigin ho
    obtain ⟨r₀, h₀, hmakes⟩ := exists_makes ho hr
    exact hmakes.mem_tags tag (mem_tags_of_carries h hknown h₀)
  have of_tag_or_origin {o : Plan} {name : String} (hname : p.newTag? = some name)
      (ho : p.rowOrigin? = some o) (h : (name == tag || o.carries tag known) = true) :
      tag ∈ r.tags.tags := by
    rcases Bool.or_eq_true _ _ ▸ h with h | h
    · exact eq_of_beq h ▸ mem_tags_of_newTag hname hr
    · exact of_origin ho h
  cases p with
  | fixed values => simp [carries] at h
  | allNodes => simp [carries] at h
  | count _ => simp [carries] at h
  | anchor i =>
    have hitem : anchors.item i = .ok r := by simpa [items, eq_comm] using hr
    unfold Anchors.item at hitem
    split at hitem
    · rename_i hlookup
      cases hitem
      exact hknown i r hlookup (by simpa [carries] using h)
    · cases hitem
  | save d o v name => exact of_tag_or_origin rfl rfl h
  | savePredicates d o name => exact of_tag_or_origin rfl rfl h
  | tag o name => exact of_tag_or_origin rfl rfl h
  | union o bs =>
    obtain ⟨ho, hbs⟩ : o.carries tag known = true ∧ allCarry tag bs known = true := by
      simpa [carries] using h
    rcases mem_append_concat.1 (mem_of_mem_distinct hr) with hr | ⟨_, hbranch, hr⟩
    · exact mem_tags_of_carries ho hknown hr
    · rw [Plan.itemsEach_eq_map] at hbranch
      obtain ⟨b, hb, rfl⟩ := List.mem_map.1 hbranch
      have := List.sizeOf_lt_of_mem hb
      exact mem_tags_of_carries (allCarry_iff.1 hbs b hb) hknown hr
  | whereAll o a bs =>
    rw [carries, Bool.or_eq_true] at h
    rcases h with h | h
    · exact of_origin rfl h
    · obtain ⟨b, hb, hcarries⟩ := anyCarries_iff.1 h
      have := List.sizeOf_lt_of_mem hb
      obtain ⟨r₀, rows, h₀, hjoin, hr⟩ := mem_expand.1 hr
      obtain ⟨firsts, hf, rfl⟩ := (mem_join hjoin hr).resolve_right (by simp)
      -- the first row of the branch is one of those whose tags are laid over those of the row
      rw [Plan.itemsEach_eq_map] at hf
      obtain ⟨first, hfirst, hhead⟩ := hf.exists_first (List.mem_map_of_mem hb)
      exact mem_tags_layer.2 (.inl ⟨first, hfirst,
        mem_tags_of_carries hcarries (hknown.cons a r₀) (mem_of_head? hhead)⟩)
  | _ => exact of_origin rfl h
termination_by sizeOf p

end Plan

end QuadWalk
