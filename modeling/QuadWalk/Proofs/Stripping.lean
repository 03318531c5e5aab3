import Mathlib.Data.List.TakeWhile
import QuadWalk.Text.Blank

/-!
# Texts without the blanks around them

`Text.Stripped` says what is left of a text without the blanks at its two ends: the blanks stand
before and after it, and it neither begins nor ends with one. There is one such text, the one that
`Text.trim` gives (`Text.trim_eq_iff`). Which characters are blanks is written out (`Text.blanks`),
so that whether a character is one can be computed.
-/

namespace QuadWalk

/-! ### Blanks -/

/-- The blank characters, in ascending order. -/
def Text.blanks : CodeSet where
  ranges := [(0x9, 0xD), (0x20, 0x20), (0x85, 0x85), (0xA0, 0xA0), (0x1680, 0x1680),
    (0x2000, 0x200A), (0x2028, 0x2029), (0x202F, 0x202F), (0x205F, 0x205F), (0x3000, 0x3000)]

theorem Property.whiteSpace_eq : whiteSpace = Text.blanks := by
  unfold whiteSpace CodeTable.set CodeSet.ofRanges
  rw [List.mergeSort_of_pairwise (by decide +kernel)]
  decide +kernel

/-- The text without the blanks at its ends, with the blanks at hand. -/
theorem Text.trim_eq (cs : List Char) : trim cs =
    ((cs.dropWhile blanks.mem).reverse.dropWhile blanks.mem).reverse := by
  unfold trim trimRight trimLeft isBlank
  rw [Property.whiteSpace_eq]

/-! ### What is dropped -/

/-- What is left when elements are dropped from the front is what follows elements that are all
dropped, if its first element is not. -/
theorem dropWhile_eq_iff {α : Type} {p : α → Bool} {l rest : List α} :
    l.dropWhile p = rest ↔
      ∃ before, l = before ++ rest ∧ (∀ a ∈ before, p a = true) ∧
        ∀ a, rest.head? = some a → p a = false := by
  constructor
  · rintro rfl
    refine ⟨l.takeWhile p, List.takeWhile_append_dropWhile.symm, fun a ha => ?_, fun a ha => ?_⟩
    · exact List.mem_takeWhile_imp ha
    · have hfirst := List.head?_dropWhile_not p l
      rw [ha] at hfirst
      simpa using hfirst
  · rintro ⟨before, rfl, hbefore, hfirst⟩
    rw [List.dropWhile_append_of_pos hbefore]
    cases rest with
    | nil => rfl
    | cons a rest => rw [List.dropWhile_cons_of_neg (by simp [hfirst a rfl])]

namespace Text

variable {cs core : List Char}

/-- **What is left of a text without the blanks at its two ends.** -/
structure Stripped (cs core : List Char) : Prop where
  around : ∃ before after, cs = before ++ core ++ after ∧
    ∀ c ∈ before ++ after, blanks.mem c = true
  first : ∀ c, core.head? = some c → blanks.mem c = false
  last : ∀ c, core.getLast? = some c → blanks.mem c = false

/-- The last character of a text is blank. -/
def EndsBlank (cs : List Char) : Prop := ∃ c, cs.getLast? = some c ∧ blanks.mem c = true

theorem not_endsBlank_iff :
    ¬ EndsBlank cs ↔ ∀ c, cs.getLast? = some c → blanks.mem c = false := by
  simp [EndsBlank]

theorem not_endsBlank_append_singleton {c : Char} (hc : blanks.mem c = false) (cs : List Char) :
    ¬ EndsBlank (cs ++ [c]) := by
  simp [EndsBlank, hc]

/-- Whether a text ends in a blank does not depend on a character before it that is none. -/
theorem endsBlank_cons {c : Char} (hc : blanks.mem c = false) :
    EndsBlank (c :: cs) ↔ EndsBlank cs := by
  cases cs with
  | nil => simp [EndsBlank, hc]
  | cons d cs => simp [EndsBlank]

/-- A text without blanks at its ends is left as it is. -/
theorem stripped_self (hfirst : ∀ c, cs.head? = some c → blanks.mem c = false)
    (hlast : ¬ EndsBlank cs) : Stripped cs cs where
  around := ⟨[], [], by simp, by simp⟩
  first := hfirst
  last := not_endsBlank_iff.1 hlast

theorem stripped_of_not_blank (h : ∀ c ∈ core, blanks.mem c = false) : Stripped core core :=
  stripped_self (fun c hc => h c (List.mem_of_head? hc)) <|
    not_endsBlank_iff.2 fun c hc => h c (List.mem_of_getLast? hc)

/-- **Trimming strips a text of the blanks at its ends.** -/
theorem trim_eq_iff : trim cs = core ↔ Stripped cs core := by
  rw [trim_eq, List.reverse_eq_iff, dropWhile_eq_iff, List.head?_reverse]
  constructor
  · rintro ⟨after, hafter, hblank, hlast⟩
    obtain ⟨before, rfl, hblank', hfirst⟩ := dropWhile_eq_iff.1 (List.reverse_eq_iff.1 hafter)
    refine ⟨⟨before, after.reverse, by simp, ?_⟩, fun c hc => hfirst c ?_, hlast⟩
    · simpa [or_imp, forall_and] using ⟨hblank', hblank⟩
    · simp [hc]
  · rintro ⟨⟨before, after, rfl, hblank⟩, hfirst, hlast⟩
    simp only [List.mem_append, or_imp, forall_and] at hblank
    by_cases hcore : core = []
    · -- nothing is left, so all is dropped from the front
      subst hcore
      refine ⟨[], ?_, by simp, hlast⟩
      have hall : (before ++ after).dropWhile blanks.mem = [] :=
        List.dropWhile_eq_nil_iff.2 (by simpa [or_imp, forall_and] using hblank)
      simpa using hall
    · refine ⟨after.reverse, ?_, by simpa using hblank.2, hlast⟩
      rw [List.reverse_eq_iff, dropWhile_eq_iff]
      refine ⟨before, by simp, hblank.1, fun c hc => hfirst c ?_⟩
      simpa [hcore] using hc

end Text

end QuadWalk
