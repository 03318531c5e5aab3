/-!
# Maps from tags

A `TagMap` binds tags to places, values or lists. Its entries are kept in the order of the tags,
each tag once, so that two maps with the same bindings are the same map.
-/

namespace QuadWalk

/-- A map from tags to things of some type. -/
structure TagMap (α : Type) where
  entries : List (String × α) := []
  /-- The tags ascend. -/
  ascending : entries.Pairwise (fun e f => e.1 < f.1) := by simp
  deriving DecidableEq

namespace TagMap

variable {α β : Type}

instance [Hashable α] : Hashable (TagMap α) := ⟨fun m => hash m.entries⟩

/-- The map without bindings. -/
def empty : TagMap α := {}

/-- The bound tags in their order. -/
def tags (m : TagMap α) : List String := m.entries.map Prod.fst

/-- What a tag is bound to. -/
def find? (m : TagMap α) (tag : String) : Option α := m.entries.lookup tag

/-! ### Binding a tag -/

/-- Puts an entry where its tag belongs; it takes the place of an entry with that tag. -/
def insertEntry (tag : String) (a : α) : List (String × α) → List (String × α)
  | [] => [(tag, a)]
  | e :: es =>
    if tag < e.1 then (tag, a) :: e :: es
    else if tag = e.1 then (tag, a) :: es
    else e :: insertEntry tag a es

/-- Every entry is the one that was put in or was there before. -/
theorem mem_insertEntry {tag : String} {a : α} {e : String × α} {es : List (String × α)}
    (h : e ∈ insertEntry tag a es) : e = (tag, a) ∨ e ∈ es := by
  induction es with
  | nil => simpa [insertEntry] using h
  | cons f fs ih =>
    unfold insertEntry at h
    split at h
    · simpa using h
    · split at h
      · rcases List.mem_cons.1 h with h | h
        · exact .inl h
        · exact .inr (List.mem_cons_of_mem _ h)
      · rcases List.mem_cons.1 h with h | h
        · exact .inr (h ▸ List.mem_cons_self)
        · exact (ih h).imp_right (List.mem_cons_of_mem _)

/-- Tags that ascend still do after an entry is put in. -/
theorem pairwise_insertEntry (tag : String) (a : α) {es : List (String × α)}
    (h : es.Pairwise fun e f => e.1 < f.1) :
    (insertEntry tag a es).Pairwise fun e f => e.1 < f.1 := by
  induction es with
  | nil => simp [insertEntry]
  | cons e es ih =>
    obtain ⟨first, rest⟩ := List.pairwise_cons.1 h
    unfold insertEntry
    split
    · rename_i below
      refine List.pairwise_cons.2 ⟨fun f hf => ?_, h⟩
      rcases List.mem_cons.1 hf with rfl | hf
      · exact below
      · exact String.lt_trans below (first f hf)
    · split
      · rename_i same
        exact List.pairwise_cons.2 ⟨fun f hf => same ▸ first f hf, rest⟩
      · rename_i notBelow other
        refine List.pairwise_cons.2 ⟨fun f hf => ?_, ih rest⟩
        rcases mem_insertEntry hf with rfl | hf
        · refine Decidable.byContradiction fun notAbove => other ?_
          exact String.le_antisymm (String.not_lt.1 notAbove) (String.not_lt.1 notBelow)
        · exact first f hf

/-- The map after a tag is bound. -/
def insert (m : TagMap α) (tag : String) (a : α) : TagMap α where
  entries := insertEntry tag a m.entries
  ascending := pairwise_insertEntry tag a m.ascending

/-- The map with the bindings of another one over its own. -/
def overlay (base top : TagMap α) : TagMap α :=
  top.entries.foldl (fun m e => m.insert e.1 e.2) base

/-- The map of some bindings; the last one of a tag counts. -/
def ofList (bindings : List (String × α)) : TagMap α :=
  bindings.foldl (fun m e => m.insert e.1 e.2) empty

/-! ### Changing what tags are bound to -/

/-- The bindings of the tags that are wanted. -/
def restrict (m : TagMap α) (wanted : String → Bool) : TagMap α where
  entries := m.entries.filter fun e => wanted e.1
  ascending := m.ascending.sublist List.filter_sublist

/-- The map to what a function gives for each binding, or the first error. -/
def traverse {ε : Type} (f : α → Except ε β) (m : TagMap α) : Except ε (TagMap β) :=
  (m.entries.mapM fun e => (f e.2).map (e.1, ·)).map ofList

end TagMap

end QuadWalk
