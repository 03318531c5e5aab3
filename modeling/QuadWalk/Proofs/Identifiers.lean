import Mathlib.Data.List.Basic
import QuadWalk.Proofs.Stripping
import QuadWalk.Query.Entity

/-!
# Identifiers as texts

A query names a node by a text: an IRI stands between angle brackets or alone, and a blank node is
`_:` and its label (`EntityId.Written`). A text is read as the identifier that it is written for
without the blanks around it (`EntityId.parse_eq_iff`).

Messages and plans show nodes in the same way. What they show of an IRI is read as this IRI,
whatever its text is: the brackets around it are the ones that are taken away, so it may have
brackets, marks of blank nodes and blanks of its own. After a label comes nothing, so a blank node
is read if its label does not end in a blank, and only then (`EntityId.parse_display`).
-/

namespace QuadWalk.EntityId

variable {text : String} {cs : List Char} {id : EntityId}

/-! ### How identifiers are written -/

/-- **An identifier is written as a text**, without blanks around it: a blank node by its label, an
IRI between brackets, or alone if its text looks like neither. -/
inductive Written : List Char → EntityId → Prop where
  | label (label : List Char) : Written ('_' :: ':' :: label) (blank (String.ofList label))
  | bracketed (text : List Char) : Written ('<' :: (text ++ ['>'])) (iri (String.ofList text))
  | bare {text : List Char} (hlabel : ∀ label, text ≠ '_' :: ':' :: label)
      (hbrackets : ∀ inner, text ≠ '<' :: (inner ++ ['>'])) :
      Written text (iri (String.ofList text))

theorem withoutBrackets_brackets (inner : List Char) :
    withoutBrackets ('<' :: (inner ++ ['>'])) = inner := by
  simp [withoutBrackets]

theorem withoutBrackets_eq_self (h : ∀ inner, cs ≠ '<' :: (inner ++ ['>'])) :
    withoutBrackets cs = cs := by
  unfold withoutBrackets
  split
  · rename_i rest
    refine if_neg fun hlast => h rest.dropLast ?_
    rw [List.dropLast_append_getLast? '>' hlast]
  · rfl

/-! ### Reading identifiers -/

/-- A text is written for what it is read as. -/
theorem written_parse (text : String) : Written (Text.trim text.toList) (parse text) := by
  unfold parse
  split
  · rename_i label hcore
    rw [hcore]
    exact .label label
  · rename_i hlabel
    by_cases hbrackets : ∃ inner, Text.trim text.toList = '<' :: (inner ++ ['>'])
    · obtain ⟨inner, hcore⟩ := hbrackets
      rw [hcore, withoutBrackets_brackets]
      exact .bracketed inner
    · have hbare := not_exists.1 hbrackets
      rw [withoutBrackets_eq_self hbare]
      exact .bare hlabel hbare

/-- **A text is read as an identifier exactly if, without the blanks around it, it is written for
this one.** -/
theorem parse_eq_iff :
    parse text = id ↔ ∃ core, Text.Stripped text.toList core ∧ Written core id := by
  constructor
  · rintro rfl
    exact ⟨_, Text.trim_eq_iff.1 rfl, written_parse text⟩
  · rintro ⟨core, hcore, hwritten⟩
    rw [parse, Text.trim_eq_iff.2 hcore]
    cases hwritten with
    | label label => rfl
    | bracketed inner => exact congrArg (iri ∘ String.ofList) (withoutBrackets_brackets inner)
    | bare hlabel hbrackets =>
      split
      · exact absurd rfl (hlabel _)
      · rw [withoutBrackets_eq_self hbrackets]

/-! ### Identifiers that are shown -/

theorem toList_display_iri (text : String) :
    (Value.iri text).display.toList = '<' :: (text.toList ++ ['>']) := by
  simp [Value.display]

theorem toList_display_blank (label : String) :
    (Value.blank label).display.toList = '_' :: ':' :: label.toList := by
  simp [Value.display]

/-- The brackets keep the blanks of an IRI from its ends. -/
theorem parse_display_iri (text : String) : parse (Value.iri text).display = iri text := by
  have hwritten := Written.bracketed text.toList
  rw [String.ofList_toList] at hwritten
  rw [parse_eq_iff, toList_display_iri]
  refine ⟨_, Text.stripped_self (fun c hc => ?_) ?_, hwritten⟩
  · obtain rfl : '<' = c := by simpa using hc
    decide
  · rw [Text.endsBlank_cons (by decide)]
    exact Text.not_endsBlank_append_singleton (by decide) _

/-- The label of a blank node ends where the text does, so blanks at its end are lost. -/
theorem parse_display_blank_iff (label : String) :
    parse (Value.blank label).display = blank label ↔ ¬ Text.EndsBlank label.toList := by
  have hends : Text.EndsBlank ('_' :: ':' :: label.toList) ↔ Text.EndsBlank label.toList := by
    rw [Text.endsBlank_cons (by decide), Text.endsBlank_cons (by decide)]
  rw [parse_eq_iff, toList_display_blank, ← hends]
  constructor
  · rintro ⟨core, hcore, hwritten⟩
    cases hwritten with
    | label cs =>
      rw [String.toList_ofList]
      exact Text.not_endsBlank_iff.2 hcore.last
  · intro hlabel
    have hwritten := Written.label label.toList
    rw [String.ofList_toList] at hwritten
    refine ⟨_, Text.stripped_self (fun c hc => ?_) hlabel, hwritten⟩
    obtain rfl : '_' = c := by simpa using hc
    decide

/-- **Identifiers that are shown are read again.** What is shown of an IRI is read as this IRI,
whatever its text is, and what is shown of a blank node is read as this node exactly if its label
does not end in a blank, whatever else is in it. The value of the identifier that is read is then
the value that was shown, unless its text is empty: then it is refused. -/
theorem parse_display (text label : String) :
    (parse (Value.iri text).display = iri text ∧
      (parse (Value.iri text).display).value =
        if text = "" then .error (.malformedStep .emptyIri) else .ok (.iri text)) ∧
    (parse (Value.blank label).display = blank label ↔ ¬ Text.EndsBlank label.toList) ∧
    (¬ Text.EndsBlank label.toList →
      (parse (Value.blank label).display).value =
        if label = "" then .error (.malformedStep .emptyLabel) else .ok (.blank label)) := by
  refine ⟨⟨parse_display_iri text, ?_⟩, parse_display_blank_iff label, fun hlabel => ?_⟩
  · rw [parse_display_iri, value]
  · rw [(parse_display_blank_iff label).2 hlabel, value]

/-- An IRI that looks like a blank node between brackets and blanks, a label of marks and blanks
that does not end in one, and both without a text. -/
theorem parse_display_marks :
    parse (Value.iri " <_:a> ").display = iri " <_:a> " ∧
    ¬ Text.EndsBlank "\u00a0<_: b>".toList ∧
    parse (Value.blank "\u00a0<_: b>").display = blank "\u00a0<_: b>" ∧
    (parse (Value.blank "\u00a0<_: b>").display).value = .ok (.blank "\u00a0<_: b>") ∧
    (parse (Value.iri "").display).value = .error (.malformedStep .emptyIri) ∧
    (parse (Value.blank "").display).value = .error (.malformedStep .emptyLabel) := by
  have hmarks : ¬ Text.EndsBlank "\u00a0<_: b>".toList :=
    Text.not_endsBlank_append_singleton (by decide) "\u00a0<_: b".toList
  have hempty : ¬ Text.EndsBlank "".toList := by simp [Text.EndsBlank]
  obtain ⟨-, hiff, hvalue⟩ := parse_display " <_:a> " "\u00a0<_: b>"
  refine ⟨(parse_display " <_:a> " "").1.1, hmarks, hiff.2 hmarks, ?_,
    (parse_display "" "").1.2, (parse_display "" "").2.2 hempty⟩
  rw [hvalue hmarks, if_neg (by decide)]

end QuadWalk.EntityId
