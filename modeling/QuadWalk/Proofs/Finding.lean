import Mathlib.Data.Nat.Bitwise
import Mathlib.Logic.Function.Iterate
import QuadWalk.Pattern.Match

/-!
# What a search finds

A search moves the marks of a whole text at once: it takes the places where matches may begin to
those where they may end. What a pattern means is easier to say of two places. `Pattern.Spans` tells
of a pattern whether a match leads from the one to the other, by the forms of patterns: a sequence
leads through a place between its parts, a repetition through as many as it has turns. A search
finds exactly these matches (`Pattern.isFoundIn_iff`).

Two things are to be seen. Marks are the bits of a number, so each step of a search has to be read
bit by bit (`LocatedPattern.testBit_run`). And a repetition without a greatest number of turns is
cut off after as many turns as the text has places: turns that lead nowhere can be left out
(`Turns.shorten`), and all others lead towards the end of the text.
-/

namespace QuadWalk

/-! ### Turns -/

/-- A number of steps, one after the other, lead from one place to another. -/
def Turns (R : Nat → Nat → Prop) : Nat → Nat → Nat → Prop
  | 0, i, j => i = j
  | n + 1, i, j => ∃ k, R i k ∧ Turns R n k j

/-- Every step stays where it is or leads to a later place that is not beyond a bound. -/
def Onward (bound : Nat) (R : Nat → Nat → Prop) : Prop :=
  ∀ ⦃i j⦄, R i j → i = j ∨ i < j ∧ j ≤ bound

theorem Onward.trans {bound i k j : Nat} {R : Nat → Nat → Prop} (hR : Onward bound R) (hk : R i k)
    (hj : k = j ∨ k < j ∧ j ≤ bound) : i = j ∨ i < j ∧ j ≤ bound := by
  have := hR hk
  omega

namespace Turns

variable {R S : Nat → Nat → Prop} {i j m n : Nat}

theorem congr (h : ∀ i j, R i j ↔ S i j) : Turns R n i j ↔ Turns S n i j := by
  induction n generalizing i with
  | zero => rfl
  | succ n ih => simp only [Turns, h, ih]

theorem add : Turns R (m + n) i j ↔ ∃ k, Turns R m i k ∧ Turns R n k j := by
  induction m generalizing i with
  | zero => simp [Turns]
  | succ m ih =>
    rw [Nat.add_right_comm]
    simp only [Turns, ih]
    constructor
    · rintro ⟨k, hk, l, hl, hj⟩
      exact ⟨l, ⟨k, hk, hl⟩, hj⟩
    · rintro ⟨l, ⟨k, hk, hl⟩, hj⟩
      exact ⟨k, hk, l, hl, hj⟩

/-- Steps that may be left out are fewer steps. -/
theorem of_reflexive : Turns (fun i j => i = j ∨ R i j) n i j ↔ ∃ m ≤ n, Turns R m i j := by
  induction n generalizing i with
  | zero => simp [Turns]
  | succ n ih =>
    simp only [Turns, ih]
    constructor
    · rintro ⟨k, rfl | hk, m, hm, hj⟩
      · exact ⟨m, Nat.le_succ_of_le hm, hj⟩
      · exact ⟨m + 1, Nat.succ_le_succ hm, k, hk, hj⟩
    · rintro ⟨m, hm, hj⟩
      cases m with
      | zero => exact ⟨i, .inl rfl, 0, Nat.zero_le n, hj⟩
      | succ m =>
        obtain ⟨k, hk, hj⟩ := hj
        exact ⟨k, .inr hk, m, Nat.le_of_succ_le_succ hm, hj⟩

/-- If steps lead onward up to a bound, then no more of them are needed than lie below the bound. -/
theorem shorten {bound : Nat} (hR : Onward bound R) (h : Turns R n i j) :
    ∃ m ≤ bound - i, Turns R m i j := by
  induction n generalizing i with
  | zero => exact ⟨0, Nat.zero_le _, h⟩
  | succ n ih =>
    obtain ⟨k, hk, hj⟩ := h
    obtain ⟨m, hm, hj⟩ := ih hj
    obtain rfl | ⟨hlt, hle⟩ := hR hk
    · exact ⟨m, hm, hj⟩
    · exact ⟨m + 1, by omega, k, hk, hj⟩

theorem onward {bound : Nat} (hR : Onward bound R) : Onward bound (Turns R n) := by
  intro i j h
  induction n generalizing i with
  | zero => exact .inl h
  | succ n ih =>
    obtain ⟨k, hk, hj⟩ := h
    exact hR.trans hk (ih hj)

end Turns

/-! ### Marks -/

namespace PlaceMask

theorem testBit_ofList (marks : List Bool) (i : Nat) :
    (ofList marks).testBit i = marks[i]?.getD false := by
  induction marks generalizing i with
  | nil => simp [ofList]
  | cons marked rest ih =>
    cases i with
    | zero => cases marked <;> simp [ofList, Nat.testBit_zero, Nat.add_mod]
    | succ i =>
      have hbit := Bool.toNat_le marked
      have hhalf : (marked.toNat + 2 * ofList rest) / 2 = ofList rest := by omega
      rw [ofList, Nat.testBit_succ, hhalf, ih, List.getElem?_cons_succ]

/-- A step that changes nothing changes nothing when it is applied more often. -/
theorem iterate_eq (step : PlaceMask → PlaceMask) (times : Nat) (mask : PlaceMask) :
    iterate step times mask = step^[times] mask := by
  induction times generalizing mask with
  | zero => rfl
  | succ times ih =>
    rw [Function.iterate_succ_apply]
    simp only [iterate, ih]
    split
    · rename_i h
      rw [h, Function.iterate_fixed h]
    · rfl

/-- A step of all marks follows a relation of places. -/
def Follows (step : PlaceMask → PlaceMask) (R : Nat → Nat → Prop) : Prop :=
  ∀ mask j, (step mask).testBit j = true ↔ ∃ i, mask.testBit i = true ∧ R i j

theorem Follows.iterate {step : PlaceMask → PlaceMask} {R : Nat → Nat → Prop}
    (h : Follows step R) (times : Nat) : Follows (iterate step times) (Turns R times) := by
  intro mask j
  rw [iterate_eq]
  induction times generalizing mask with
  | zero => simp [Turns]
  | succ times ih =>
    rw [Function.iterate_succ_apply, ih]
    simp only [h mask, Turns]
    constructor
    · rintro ⟨k, ⟨i, hi, hk⟩, hj⟩
      exact ⟨i, hi, k, hk, hj⟩
    · rintro ⟨i, hi, k, hk, hj⟩
      exact ⟨k, ⟨i, hi, hk⟩, hj⟩

end PlaceMask

/-! ### Located patterns -/

namespace LocatedPattern

open PlaceMask

/-- A match of the pattern may begin at one place and end at another. -/
def Leads : LocatedPattern → Nat → Nat → Prop
  | empty, i, j => i = j
  | chars places, i, j => places.testBit i = true ∧ j = i + 1
  | look places, i, j => places.testBit i = true ∧ i = j
  | seq p q, i, j => ∃ k, p.Leads i k ∧ q.Leads k j
  | alt p q, i, j => p.Leads i j ∨ q.Leads i j
  | .repeat least most p, i, j => ∃ extra ≤ most - least, Turns p.Leads (least + extra) i j

/-- **A run takes the places where matches begin to those where they end.** -/
theorem testBit_run (p : LocatedPattern) : Follows p.run p.Leads := by
  induction p with
  | empty =>
    intro mask j
    simp [run, Leads]
  | chars places =>
    intro mask j
    rw [run, Nat.testBit_shiftLeft, Bool.and_eq_true, decide_eq_true_eq, Nat.testBit_and,
      Bool.and_eq_true]
    constructor
    · rintro ⟨hj, hmask, hplaces⟩
      exact ⟨j - 1, hmask, hplaces, by omega⟩
    · rintro ⟨i, hmask, hplaces, rfl⟩
      exact ⟨by omega, hmask, hplaces⟩
  | look places =>
    intro mask j
    rw [run, Nat.testBit_and, Bool.and_eq_true]
    constructor
    · rintro ⟨hmask, hplaces⟩
      exact ⟨j, hmask, hplaces, rfl⟩
    · rintro ⟨i, hmask, hplaces, rfl⟩
      exact ⟨hmask, hplaces⟩
  | seq p q ihp ihq =>
    intro mask j
    rw [run, ihq]
    simp only [ihp mask, Leads]
    constructor
    · rintro ⟨k, ⟨i, hi, hk⟩, hj⟩
      exact ⟨i, hi, k, hk, hj⟩
    · rintro ⟨i, hi, k, hk, hj⟩
      exact ⟨k, ⟨i, hi, hk⟩, hj⟩
  | alt p q ihp ihq =>
    intro mask j
    rw [run, Nat.testBit_or, Bool.or_eq_true, ihp, ihq]
    simp only [Leads, and_or_left, exists_or]
  | «repeat» least most p ih =>
    intro mask j
    have hoptional : Follows (fun mask => mask ||| p.run mask) fun i j => i = j ∨ p.Leads i j := by
      intro mask j
      rw [Nat.testBit_or, Bool.or_eq_true, ih]
      simp only [and_or_left, exists_or, exists_eq_right]
    rw [run, hoptional.iterate]
    simp only [ih.iterate least mask, Turns.of_reflexive, Leads, Turns.add]
    constructor
    · rintro ⟨k, ⟨i, hi, hk⟩, extra, hextra, hj⟩
      exact ⟨i, hi, extra, hextra, k, hk, hj⟩
    · rintro ⟨i, hi, extra, hextra, k, hk, hj⟩
      exact ⟨k, ⟨i, hi, hk⟩, extra, hextra, hj⟩

end LocatedPattern

/-! ### Patterns on a text -/

/-- The character before a place of a text, given the one before the text. -/
def charBefore (before : Option Char) (text : List Char) : Nat → Option Char
  | 0 => before
  | i + 1 => text[i]?

theorem Look.getElem?_marks (l : Look) (before : Option Char) (text : List Char) (i : Nat) :
    (l.marks before text)[i]? =
      if i ≤ text.length then some (l.holds (charBefore before text i) text[i]?) else none := by
  induction text generalizing before i with
  | nil => cases i <;> simp [marks, charBefore]
  | cons c cs ih =>
    cases i with
    | zero => simp [marks, charBefore]
    | succ i =>
      rw [marks, List.getElem?_cons_succ, ih]
      cases i <;> simp [charBefore]

namespace Pattern

mutual

/-- A match of the pattern in a text may begin at one place and end at another. -/
def Spans (text : List Char) : Pattern → Nat → Nat → Prop
  | .empty, i, j => i = j
  | .literal cs, i, j => cs <+: text.drop i ∧ j = i + cs.length
  | .chars s, i, j => (∃ c, text[i]? = some c ∧ s.mem c = true) ∧ j = i + 1
  | .look l, i, j =>
    (i ≤ text.length ∧ l.holds (charBefore none text i) text[i]? = true) ∧ i = j
  | .repeat least most _ p, i, j =>
    ∃ extra, (∀ m, most = some m → extra ≤ m - least) ∧ Turns (Spans text p) (least + extra) i j
  | .capture p, i, j => Spans text p i j
  | .seq ps, i, j => SpansSeq text ps i j
  | .alt ps, i, j => SpansAlt text ps i j

/-- A match of patterns one after another may begin at one place and end at another. -/
def SpansSeq (text : List Char) : List Pattern → Nat → Nat → Prop
  | [], i, j => i = j
  | p :: ps, i, j => ∃ k, Spans text p i k ∧ SpansSeq text ps k j

/-- A match of one of several patterns may begin at one place and end at another. -/
def SpansAlt (text : List Char) : List Pattern → Nat → Nat → Prop
  | [], _, _ => False
  | p :: ps, i, j => Spans text p i j ∨ SpansAlt text ps i j

end

variable {text : List Char} {i j : Nat}

theorem spans_repeat {least : Nat} {most : Option Nat} {short : Bool} {p : Pattern} :
    Spans text (.repeat least most short p) i j ↔ ∃ extra,
      (∀ m, most = some m → extra ≤ m - least) ∧ Turns (Spans text p) (least + extra) i j := by
  rw [Spans]

mutual

/-- A match ends where it begins or later in the text. -/
theorem onward_spans (text : List Char) : ∀ p, Onward text.length (Spans text p)
  | .empty, _, _, h => .inl (by simpa only [Spans] using h)
  | .literal cs, i, j, h => by
    simp only [Spans] at h
    obtain ⟨hcs, rfl⟩ := h
    have hlength := hcs.length_le
    rw [List.length_drop] at hlength
    omega
  | .chars s, i, j, h => by
    simp only [Spans] at h
    obtain ⟨⟨c, hc, -⟩, rfl⟩ := h
    have hlt := (List.getElem?_eq_some_iff.1 hc).1
    omega
  | .look l, _, _, h => by
    simp only [Spans] at h
    exact .inl h.2
  | .repeat least most _ p, _, _, h => by
    simp only [Spans] at h
    obtain ⟨extra, -, h⟩ := h
    exact Turns.onward (onward_spans text p) h
  | .capture p, _, _, h => onward_spans text p (by simpa only [Spans] using h)
  | .seq ps, _, _, h => onward_spansSeq text ps (by simpa only [Spans] using h)
  | .alt ps, _, _, h => onward_spansAlt text ps (by simpa only [Spans] using h)

theorem onward_spansSeq (text : List Char) : ∀ ps, Onward text.length (SpansSeq text ps)
  | [], _, _, h => .inl (by simpa only [SpansSeq] using h)
  | p :: ps, _, _, h => by
    simp only [SpansSeq] at h
    obtain ⟨k, hk, hj⟩ := h
    exact (onward_spans text p).trans hk (onward_spansSeq text ps hj)

theorem onward_spansAlt (text : List Char) : ∀ ps, Onward text.length (SpansAlt text ps)
  | [], _, _, h => by
    simp only [SpansAlt] at h
  | p :: ps, _, _, h => by
    simp only [SpansAlt] at h
    exact h.elim (fun h => onward_spans text p h) fun h => onward_spansAlt text ps h

end

/-- Turns without a greatest number may be cut off after as many as the text has places. -/
theorem turns_iff_le {R : Nat → Nat → Prop} {least : Nat} (hR : Onward text.length R) :
    (∃ extra ≤ text.length + 1, Turns R (least + extra) i j) ↔
      ∃ extra, Turns R (least + extra) i j := by
  constructor
  · rintro ⟨extra, -, h⟩
    exact ⟨extra, h⟩
  · rintro ⟨extra, h⟩
    obtain ⟨k, hk, hj⟩ := Turns.add.1 h
    obtain ⟨m, hm, hj⟩ := hj.shorten hR
    exact ⟨m, by omega, Turns.add.2 ⟨k, hk, hj⟩⟩

theorem leads_literal (cs : List Char) :
    (LocatedPattern.literal text cs).Leads i j ↔ cs <+: text.drop i ∧ j = i + cs.length := by
  induction cs generalizing i with
  | nil => simp [LocatedPattern.literal, LocatedPattern.Leads, eq_comm]
  | cons c cs ih =>
    simp only [LocatedPattern.literal, LocatedPattern.Leads, ih, PlaceMask.testBit_ofList,
      List.getElem?_map, and_assoc, exists_and_left, exists_eq_left, List.length_cons,
      Nat.add_assoc, Nat.add_comm 1]
    by_cases hi : i < text.length
    · rw [List.drop_eq_getElem_cons hi, List.cons_prefix_cons, List.getElem?_eq_getElem hi]
      simp [eq_comm, and_assoc]
    · rw [List.drop_of_length_le (Nat.le_of_not_lt hi), List.getElem?_eq_none (Nat.le_of_not_lt hi)]
      simp

mutual

/-- What a pattern is on a text follows what the pattern says of places. -/
theorem leads_locate (text : List Char) : ∀ (p : Pattern) (i j : Nat),
    (p.locate text).Leads i j ↔ Spans text p i j
  | .empty, i, j => by simp only [locate, LocatedPattern.Leads, Spans]
  | .literal cs, i, j => by simp only [locate, leads_literal, Spans]
  | .chars s, i, j => by
    simp only [locate, LocatedPattern.Leads, Spans, PlaceMask.testBit_ofList, List.getElem?_map]
    cases text[i]? <;> simp
  | .look l, i, j => by
    simp only [locate, LocatedPattern.Leads, Spans, PlaceMask.testBit_ofList, Look.getElem?_marks]
    split <;> simp [*]
  | .repeat least most _ p, i, j => by
    have hturns (n : Nat) : Turns (p.locate text).Leads n i j ↔ Turns (Spans text p) n i j :=
      Turns.congr (leads_locate text p)
    simp only [locate, LocatedPattern.Leads, Spans, hturns]
    cases most with
    | none =>
      have hextra : least + text.length + 1 - least = text.length + 1 := by omega
      simp only [Option.getD_none, hextra, turns_iff_le (onward_spans text p)]
      simp
    | some most => simp
  | .capture p, i, j => by simp only [locate, Spans, leads_locate text p]
  | .seq ps, i, j => by simp only [locate, Spans, leads_locateSeq text ps]
  | .alt ps, i, j => by simp only [locate, Spans, leads_locateAlt text ps]

theorem leads_locateSeq (text : List Char) : ∀ (ps : List Pattern) (i j : Nat),
    (locateSeq text ps).Leads i j ↔ SpansSeq text ps i j
  | [], i, j => by simp only [locateSeq, LocatedPattern.Leads, SpansSeq]
  | p :: ps, i, j => by
    simp only [locateSeq, LocatedPattern.Leads, SpansSeq, leads_locate text p,
      leads_locateSeq text ps]

theorem leads_locateAlt (text : List Char) : ∀ (ps : List Pattern) (i j : Nat),
    (locateAlt text ps).Leads i j ↔ SpansAlt text ps i j
  | [], i, j => by simp [locateAlt, LocatedPattern.Leads, SpansAlt]
  | p :: ps, i, j => by
    simp only [locateAlt, LocatedPattern.Leads, SpansAlt, leads_locate text p,
      leads_locateAlt text ps]

end

/-- **A search finds a match wherever there is one.** -/
theorem isFoundIn_iff (p : Pattern) (text : List Char) :
    p.isFoundIn text = true ↔ ∃ i j, i ≤ text.length ∧ Spans text p i j := by
  have hstarts (i : Nat) :
      (PlaceMask.ofList (List.replicate (text.length + 1) true)).testBit i = true ↔
        i ≤ text.length := by
    rw [PlaceMask.testBit_ofList, List.getElem?_replicate]
    split <;> simp <;> omega
  rw [isFoundIn, decide_eq_true_eq]
  constructor
  · intro h
    obtain ⟨j, hj⟩ := Nat.exists_testBit_of_ne_zero h
    obtain ⟨i, hi, hij⟩ := (LocatedPattern.testBit_run _ _ _).1 hj
    exact ⟨i, j, (hstarts i).1 hi, (leads_locate text p i j).1 hij⟩
  · rintro ⟨i, j, hi, hij⟩ h
    have hj := (LocatedPattern.testBit_run _ _ _).2
      ⟨i, (hstarts i).2 hi, (leads_locate text p i j).2 hij⟩
    rw [h, Nat.zero_testBit] at hj
    cases hj

end Pattern

end QuadWalk
