import QuadWalk.Store.Interner

/-!
# Numbers of values

A numbering is a bijection between values and an initial segment of the numbers, and it only grows:
whatever had a number keeps it (`Interner.Grows`). This is so of all tables that are in step, and so
of every interner.
-/

namespace QuadWalk.Interner

/-! ### Tables that are in step -/

namespace Tables

variable {t t' t'' : Tables} {id id' : NodeId} {v : Value}

/-- A value has a number already, or it is given the next one. -/
theorem intern_cases (t : Tables) (v : Value) :
    (∃ id, t.idOf? v = some id ∧ t.intern v = (id, t)) ∨
      (t.idOf? v = none ∧ t.intern v = (t.next, t.insert v)) := by
  unfold intern
  cases hv : t.idOf? v with
  | some id => exact .inl ⟨id, rfl, rfl⟩
  | none => exact .inr ⟨rfl, rfl⟩

/-- Whatever has a number in the first tables has it in the second. -/
def Grows (t t' : Tables) : Prop :=
  ∀ {id : NodeId} {v : Value}, t.lookup? id = some v → t'.lookup? id = some v

theorem Grows.refl (t : Tables) : Grows t t := fun h => h

theorem Grows.trans (h : Grows t t') (h' : Grows t' t'') : Grows t t'' := fun hv => h' (h hv)

namespace Sound

theorem lt_next (h : t.Sound) (hv : t.lookup? id = some v) : id < t.next := (h.dense id).1 ⟨v, hv⟩

/-- No number but one has a value. -/
theorem lookup?_inj (h : t.Sound) (hv : t.lookup? id = some v) (hv' : t.lookup? id' = some v) :
    id = id' := by
  rw [← h.inverse] at hv hv'
  exact Option.some.inj (hv.symm.trans hv')

/-- A value that has a number is given it again, and nothing changes. -/
theorem intern_of_lookup? (h : t.Sound) (hv : t.lookup? id = some v) : t.intern v = (id, t) := by
  unfold Tables.intern
  rw [(h.inverse v id).2 hv]

/-- Giving a number to a value leaves all others theirs. -/
theorem grows_intern (h : t.Sound) (v : Value) : Grows t (t.intern v).2 := by
  intro id w hw
  obtain ⟨_, _, hintern⟩ | ⟨-, hintern⟩ := intern_cases t v
  · rw [hintern]
    exact hw
  · have hid : id ≠ t.next := Nat.ne_of_lt (h.lt_next hw)
    rw [hintern, lookup?_insert, if_neg hid]
    exact hw

/-- A value that was given a number has it. -/
theorem lookup?_intern (h : t.Sound) (v : Value) :
    (t.intern v).2.lookup? (t.intern v).1 = some v := by
  obtain ⟨id, hv, hintern⟩ | ⟨-, hintern⟩ := intern_cases t v
  · rw [hintern]
    exact (h.inverse v id).1 hv
  · rw [hintern, lookup?_insert, if_pos rfl]

end Sound

/-- What a number has after one was given out, it had before, or the number is the one given out. -/
theorem lookup?_of_intern {w : Value} (hw : (t.intern v).2.lookup? id = some w) :
    t.lookup? id = some w ∨ id = (t.intern v).1 := by
  obtain ⟨_, _, hintern⟩ | ⟨-, hintern⟩ := intern_cases t v
  · rw [hintern] at hw
    exact .inl hw
  · rw [hintern, lookup?_insert] at hw
    rw [hintern]
    by_cases hid : id = t.next
    · exact .inr hid
    · rw [if_neg hid] at hw
      exact .inl hw

end Tables

/-! ### Interners -/

variable {t t' t'' : Interner} {id id' : NodeId} {v : Value}

theorem idOf?_eq_some_iff : t.idOf? v = some id ↔ t.lookup? id = some v := t.sound.inverse v id

theorem lookup?_inj (h : t.lookup? id = some v) (h' : t.lookup? id' = some v) : id = id' :=
  t.sound.lookup?_inj h h'

theorem intern_of_lookup? (h : t.lookup? id = some v) : t.intern v = (id, t) := by
  have hintern := t.sound.intern_of_lookup? h
  obtain ⟨tables, hsound⟩ := t
  unfold intern
  simp only [hintern]

/-- Whatever has a number in the first numbering has it in the second. -/
def Grows (t t' : Interner) : Prop := t.tables.Grows t'.tables

theorem Grows.refl (t : Interner) : Grows t t := Tables.Grows.refl t.tables

theorem Grows.trans (h : Grows t t') (h' : Grows t' t'') : Grows t t'' := Tables.Grows.trans h h'

theorem grows_intern (t : Interner) (v : Value) : Grows t (t.intern v).2 := t.sound.grows_intern v

theorem lookup?_intern (t : Interner) (v : Value) :
    (t.intern v).2.lookup? (t.intern v).1 = some v := t.sound.lookup?_intern v

theorem lookup?_of_intern {w : Value} (h : (t.intern v).2.lookup? id = some w) :
    t.lookup? id = some w ∨ id = (t.intern v).1 := Tables.lookup?_of_intern h

end QuadWalk.Interner
