import QuadWalk.Plan.TagMap

/-!
# Looking up tags

What a map from tags binds a tag to after each operation: a binding changes its own tag only, and
bindings laid over others hide those with the same tag.
-/

namespace QuadWalk.TagMap

variable {α : Type}

@[simp]
theorem find?_empty (t : String) : (empty : TagMap α).find? t = none := rfl

theorem lookup_cons_eq_ite (t : String) (e : String × α) (es : List (String × α)) :
    (e :: es).lookup t = if t = e.1 then some e.2 else es.lookup t := by
  rw [List.lookup_cons]
  by_cases h : t = e.1
  · simp [h]
  · simp [beq_eq_false_iff_ne.2 h, h]

theorem lookup_insertEntry (tag t : String) (a : α) (es : List (String × α)) :
    (insertEntry tag a es).lookup t = if t = tag then some a else es.lookup t := by
  induction es with
  | nil => rw [insertEntry, lookup_cons_eq_ite]
  | cons e es ih =>
    unfold insertEntry
    split
    · rw [lookup_cons_eq_ite]
    · split
      · rename_i same
        rw [lookup_cons_eq_ite, lookup_cons_eq_ite, ← same]
        by_cases h : t = tag <;> simp [h]
      · rename_i other
        rw [lookup_cons_eq_ite, lookup_cons_eq_ite, ih]
        by_cases he : t = e.1
        · have h : t ≠ tag := fun h => other (h.symm.trans he)
          rw [if_pos he, if_neg h, if_pos he]
        · rw [if_neg he, if_neg he]

/-- A binding changes its own tag and no other. -/
@[simp]
theorem find?_insert (m : TagMap α) (tag t : String) (a : α) :
    (m.insert tag a).find? t = if t = tag then some a else m.find? t :=
  lookup_insertEntry tag t a m.entries

theorem mem_tags_iff {m : TagMap α} {t : String} : t ∈ m.tags ↔ (m.find? t).isSome = true := by
  unfold tags find?
  induction m.entries with
  | nil => simp
  | cons e es ih =>
    rw [lookup_cons_eq_ite]
    by_cases h : t = e.1 <;> simp [h, ih]

theorem lookup_of_mem {es : List (String × α)} (h : es.Pairwise fun e f => e.1 < f.1)
    {e : String × α} (he : e ∈ es) : es.lookup e.1 = some e.2 := by
  induction es with
  | nil => exact absurd he List.not_mem_nil
  | cons f fs ih =>
    obtain ⟨first, rest⟩ := List.pairwise_cons.1 h
    rw [lookup_cons_eq_ite]
    rcases List.mem_cons.1 he with rfl | he
    · rw [if_pos rfl]
    · have hne : e.1 ≠ f.1 := fun heq => String.lt_irrefl _ (heq ▸ first e he)
      rw [if_neg hne, ih rest he]

theorem mem_of_lookup {t : String} {a : α} {es : List (String × α)} (h : es.lookup t = some a) :
    (t, a) ∈ es := by
  obtain ⟨before, after, rfl, -⟩ := List.lookup_eq_some_iff.1 h
  exact List.mem_append_right _ List.mem_cons_self

/-- The entries of a map tell what its tags are bound to. -/
theorem find?_of_mem_entries {m : TagMap α} {e : String × α} (h : e ∈ m.entries) :
    m.find? e.1 = some e.2 :=
  lookup_of_mem m.ascending h

/-- A tag below all tags of some entries is none of theirs. -/
theorem lookup_eq_none_of_below {t : String} {es : List (String × α)} (h : ∀ e ∈ es, t < e.1) :
    es.lookup t = none := by
  rw [List.lookup_eq_none_iff]
  intro e he
  have hne : t ≠ e.1 := fun heq => String.lt_irrefl _ (heq ▸ h e he)
  simpa using hne

/-- Entries that are bound one after the other hide what was bound before. -/
theorem find?_foldl_insert {es : List (String × α)} (h : es.Pairwise fun e f => e.1 < f.1)
    (base : TagMap α) (t : String) :
    (es.foldl (fun m e => m.insert e.1 e.2) base).find? t = (es.lookup t).or (base.find? t) := by
  induction es generalizing base with
  | nil => simp
  | cons e es ih =>
    obtain ⟨first, rest⟩ := List.pairwise_cons.1 h
    rw [List.foldl_cons, ih rest, find?_insert, lookup_cons_eq_ite]
    by_cases he : t = e.1
    · simp [he, lookup_eq_none_of_below first]
    · simp [he]

/-- Laid over others, bindings hide those with the same tag and leave the rest. -/
@[simp]
theorem find?_overlay (base top : TagMap α) (t : String) :
    (base.overlay top).find? t = (top.find? t).or (base.find? t) :=
  find?_foldl_insert top.ascending base t

theorem insertEntry_of_lookup {tag : String} {a : α} {es : List (String × α)}
    (h : es.Pairwise fun e f => e.1 < f.1) (ha : es.lookup tag = some a) :
    insertEntry tag a es = es := by
  induction es with
  | nil => simp at ha
  | cons e es ih =>
    obtain ⟨first, rest⟩ := List.pairwise_cons.1 h
    rw [lookup_cons_eq_ite] at ha
    unfold insertEntry
    by_cases he : tag = e.1
    · obtain rfl : e.2 = a := by simpa [he] using ha
      rw [if_neg (he ▸ String.lt_irrefl _), if_pos he, he]
    · rw [if_neg he] at ha
      -- entries after the first one have tags above its own
      have hbelow : ¬ tag < e.1 := by
        intro hlt
        have hnone := lookup_eq_none_of_below fun f hf => String.lt_trans hlt (first f hf)
        simp [hnone] at ha
      rw [if_neg hbelow, if_neg he, ih rest ha]

/-- To bind a tag to what it is bound to changes nothing. -/
theorem insert_of_find? {m : TagMap α} {tag : String} {a : α} (h : m.find? tag = some a) :
    m.insert tag a = m := by
  cases m with
  | mk entries ascending =>
    simp only [insert, mk.injEq]
    exact insertEntry_of_lookup ascending h

/-- Bindings laid over themselves change nothing. -/
@[simp]
theorem overlay_self (m : TagMap α) : m.overlay m = m := by
  have step : ∀ es : List (String × α), (∀ e ∈ es, m.find? e.1 = some e.2) →
      es.foldl (fun m e => m.insert e.1 e.2) m = m := by
    intro es
    induction es with
    | nil => simp
    | cons e es ih =>
      intro h
      rw [List.foldl_cons, insert_of_find? (h e List.mem_cons_self)]
      exact ih fun f hf => h f (List.mem_cons_of_mem _ hf)
  exact step m.entries fun e he => find?_of_mem_entries he

end QuadWalk.TagMap
