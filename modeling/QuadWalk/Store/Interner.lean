import Std.Data.TreeMap
import QuadWalk.Store.Graph

/-!
# Numbering values

An `Interner` gives each value a number when it is first seen: 0, 1, 2 and so on. A value keeps its
number, and different values have different ones.

It keeps two tables, one that leads from values to numbers and one that leads back, and a counter
with the number that is given out next (`Interner.Tables`). Nothing in the tables themselves makes
them agree with each other or with the counter. That they do (`Interner.Tables.Sound`) is so because
they are only changed by giving the next number to a value that has none.
-/

namespace QuadWalk

namespace Interner

/-- From values to numbers and back, and how far numbers were given out. -/
structure Tables where
  /-- The numbers of values, the latest in front. -/
  numbers : List (Value × NodeId) := []
  /-- The values of numbers. -/
  values : Std.TreeMap NodeId Value := ∅
  /-- The number that is given out next. -/
  next : NodeId := 0

namespace Tables

/-- The number of a value, if it has one. -/
def idOf? (t : Tables) (v : Value) : Option NodeId := t.numbers.lookup v

/-- The value of a number, if it has one. -/
def lookup? (t : Tables) (id : NodeId) : Option Value := t.values[id]?

/-- How many numbers were given out. -/
def size (t : Tables) : Nat := t.next

/-- The tables after the next number is given to a value. -/
def insert (t : Tables) (v : Value) : Tables where
  numbers := (v, t.next) :: t.numbers
  values := t.values.insert t.next v
  next := t.next + 1

/-- The number of a value, and the tables after that. One that has a number is not touched. -/
def intern (t : Tables) (v : Value) : NodeId × Tables :=
  match t.idOf? v with
  | some id => (id, t)
  | none => (t.next, t.insert v)

/-! ### Tables that agree -/

variable {t : Tables} {v : Value}

theorem lookup?_empty (id : NodeId) : lookup? {} id = none := by simp [lookup?]

theorem idOf?_insert (t : Tables) (v w : Value) :
    (t.insert v).idOf? w = if w = v then some t.next else t.idOf? w := by
  by_cases h : w = v
  · simp [idOf?, insert, h]
  · have hne : (w == v) = false := beq_false_of_ne h
    simp [idOf?, insert, List.lookup_cons, h, hne]

theorem lookup?_insert (t : Tables) (v : Value) (id : NodeId) :
    (t.insert v).lookup? id = if id = t.next then some v else t.lookup? id := by
  unfold lookup? insert
  rw [Std.TreeMap.getElem?_insert]
  by_cases h : id = t.next
  · simp [h]
  · rw [if_neg h, if_neg fun hcompare => h (Nat.compare_eq_eq.1 hcompare).symm]

/-- The tables are each other's inverse, and the numbers are those below the next one. -/
structure Sound (t : Tables) : Prop where
  inverse : ∀ (v : Value) (id : NodeId), t.idOf? v = some id ↔ t.lookup? id = some v
  dense : ∀ id : NodeId, (∃ v, t.lookup? id = some v) ↔ id < t.next

theorem sound_empty : Sound {} where
  inverse := by simp [idOf?, lookup?_empty]
  dense := by simp [lookup?_empty]

/-- The next number has no value yet. -/
theorem Sound.lookup?_next (h : t.Sound) : t.lookup? t.next = none := by
  cases hv : t.lookup? t.next with
  | none => rfl
  | some v => exact absurd ((h.dense t.next).1 ⟨v, hv⟩) (Nat.lt_irrefl _)

/-- Giving the next number to a value that has none keeps the tables in step. -/
theorem Sound.insert (h : t.Sound) (hv : t.idOf? v = none) : (t.insert v).Sound where
  inverse := by
    intro w id
    rw [idOf?_insert, lookup?_insert]
    by_cases hw : w = v <;> by_cases hid : id = t.next
    · simp [hw, hid]
    · have hold : t.lookup? id ≠ some v := by
        rw [ne_eq, ← h.inverse, hv]
        simp
      simp [hw, hid, hold, Ne.symm hid]
    · have hnew : t.idOf? w ≠ some t.next := by
        rw [ne_eq, h.inverse, h.lookup?_next]
        simp
      simp [hw, hid, hnew, Ne.symm hw]
    · rw [if_neg hw, if_neg hid]
      exact h.inverse w id
  dense := by
    intro id
    rw [lookup?_insert]
    show _ ↔ id < t.next + 1
    rw [Nat.lt_succ_iff_lt_or_eq]
    by_cases hid : id = t.next
    · simp [hid]
    · simp [hid, h.dense]

theorem Sound.intern (h : t.Sound) (v : Value) : (t.intern v).2.Sound := by
  unfold Tables.intern
  split
  · exact h
  · next hv => exact h.insert hv

end Tables

end Interner

/-- Tables that are in step. -/
structure Interner where
  tables : Interner.Tables := {}
  sound : tables.Sound := by exact Interner.Tables.sound_empty

namespace Interner

/-- The number of a value, if it has one. -/
def idOf? (t : Interner) (v : Value) : Option NodeId := t.tables.idOf? v

/-- The value of a number. -/
def lookup? (t : Interner) (id : NodeId) : Option Value := t.tables.lookup? id

/-- How many values have a number. -/
def size (t : Interner) : Nat := t.tables.size

/-- The number of a value, which is given one if it has none, and the numbering after that. -/
def intern (t : Interner) (v : Value) : NodeId × Interner :=
  let answer := t.tables.intern v
  (answer.1, ⟨answer.2, t.sound.intern v⟩)

end Interner

end QuadWalk
