import QuadWalk.Proofs.Computations
import QuadWalk.Store.Load

/-!
# What the statements of a file say

A statement says a quad if each of its terms stands for what the quad has at its place: subject,
predicate and label name an identifier (`Term.Names`), and the object denotes a value of any kind
(`Term.Denotes`). A statement that says no quad is rejected for the first of its terms that has no
place (`Statement.Rejected`). A file says quads, one for each of its statements, or it is refused,
for the first statement that is rejected or else for the fault at which reading ended
(`Statements.Refused`).

These are relations between a file and what it says. That the quads of a file are computed according
to them is the content of `Statements.quads_eq_ok` and `Statements.quads_eq_error`.
-/

namespace QuadWalk

/-! ### Terms -/

namespace Term

/-- A term names an identifier. -/
inductive Names : Term → Value → Prop where
  | iri (text : String) : Names (.iri text) (.iri text)
  | blank (label : String) : Names (.blank label) (.blank label)

/-- A term denotes a value: the identifier that it names, or the value of a literal. -/
inductive Denotes : Term → Value → Prop where
  | name {t : Term} {v : Value} (h : t.Names v) : Denotes t v
  | literal (lexical : String) (datatype language : Option String) :
    Denotes (.literal lexical datatype language) (.ofLiteral lexical datatype language)

/-- Why a term denotes no value. -/
inductive Meaningless : Term → TermError → Prop where
  | quotation (s p o : Term) : Meaningless (.quotation s p o) .quotation

/-- Why a term names no identifier. -/
inductive Nameless : Term → TermError → Prop where
  | meaningless {t : Term} {e : TermError} (h : t.Meaningless e) : Nameless t e
  | literal (lexical : String) (datatype language : Option String) :
    Nameless (.literal lexical datatype language)
      (.literal (.ofLiteral lexical datatype language))

variable {t : Term} {v : Value} {e : TermError}

/-- What a term names is an IRI or a blank node. -/
theorem Names.isIri_or_isBlank (h : t.Names v) : (v.isIri || v.isBlank) = true := by
  cases h <;> rfl

/-- No literal has the value of an identifier, whatever its datatype. -/
theorem not_isIri_or_isBlank_ofLiteral (lexical : String) (datatype language : Option String) :
    ((Value.ofLiteral lexical datatype language).isIri ||
      (Value.ofLiteral lexical datatype language).isBlank) = false := by
  cases language with
  | some language => cases datatype <;> rfl
  | none =>
    cases datatype with
    | none => rfl
    | some datatype =>
      simp only [Value.ofLiteral, Value.ofTyped]
      split_ifs
      · rfl
      · cases Numeral.int64? (Text.trim lexical.toList) <;> rfl
      · cases Numeral.binary64? (Text.trim lexical.toList) <;> rfl
      · cases Value.bool? (Text.trim lexical.toList) <;> rfl
      · rfl

theorem value_eq_ok : t.value = .ok v ↔ t.Denotes v := by
  constructor
  · intro h
    cases t with
    | iri text => cases h; exact .name (.iri text)
    | blank label => cases h; exact .name (.blank label)
    | literal lexical datatype language => cases h; exact .literal lexical datatype language
    | quotation s p o => cases h
  · rintro (⟨⟨text⟩ | ⟨label⟩⟩ | ⟨lexical, datatype, language⟩) <;> rfl

theorem value_eq_error : t.value = .error e ↔ t.Meaningless e := by
  constructor
  · intro h
    cases t with
    | quotation s p o => cases h; exact .quotation s p o
    | _ => cases h
  · rintro ⟨s, p, o⟩
    rfl

/-- A term is an identifier if it names one, whatever stands for a literal. -/
theorem identifier_eq_ok : t.identifier = .ok v ↔ t.Names v := by
  rw [identifier, bind_ok_iff]
  constructor
  · rintro ⟨w, hw, h⟩
    obtain ⟨hname⟩ | ⟨lexical, datatype, language⟩ := value_eq_ok.1 hw
    · rw [if_pos hname.isIri_or_isBlank] at h
      cases h
      exact hname
    · rw [not_isIri_or_isBlank_ofLiteral, if_neg Bool.false_ne_true] at h
      cases h
  · intro h
    exact ⟨v, value_eq_ok.2 (.name h), if_pos h.isIri_or_isBlank⟩

theorem identifier_eq_error : t.identifier = .error e ↔ t.Nameless e := by
  rw [identifier, bind_error_iff, value_eq_error]
  constructor
  · rintro (h | ⟨w, hw, h⟩)
    · exact .meaningless h
    · obtain ⟨hname⟩ | ⟨lexical, datatype, language⟩ := value_eq_ok.1 hw
      · rw [if_pos hname.isIri_or_isBlank] at h
        cases h
      · rw [not_isIri_or_isBlank_ofLiteral, if_neg Bool.false_ne_true] at h
        cases h
        exact .literal lexical datatype language
  · rintro (h | ⟨lexical, datatype, language⟩)
    · exact .inl h
    · refine .inr ⟨_, rfl, ?_⟩
      rw [not_isIri_or_isBlank_ofLiteral, if_neg Bool.false_ne_true]

end Term

/-! ### Statements -/

/-- A statement says a quad: each of its terms stands for what the quad has at its place, and there
is a label in both or in neither. -/
structure Statement.Says (st : Statement) (x : Quad) : Prop where
  subject : st.subject.Names x.subject
  predicate : st.predicate.Names x.predicate
  object : st.object.Denotes x.object
  label : Option.Rel Term.Names st.label x.label

/-- Why a statement says no quad: the first of its terms without a place, in the order subject,
predicate, object, label. -/
inductive Statement.Rejected (st : Statement) : TermError → Prop where
  | subject {e : TermError} (h : st.subject.Nameless e) : Rejected st e
  | predicate {s : Value} {e : TermError} (hs : st.subject.Names s)
    (h : st.predicate.Nameless e) : Rejected st e
  | object {s p : Value} {e : TermError} (hs : st.subject.Names s) (hp : st.predicate.Names p)
    (h : st.object.Meaningless e) : Rejected st e
  | label {s p o : Value} {l : Term} {e : TermError} (hs : st.subject.Names s)
    (hp : st.predicate.Names p) (ho : st.object.Denotes o) (hl : st.label = some l)
    (h : l.Nameless e) : Rejected st e

namespace Statement

variable {st : Statement} {x : Quad} {e : TermError}

theorem quad_eq_ok : st.quad = .ok x ↔ st.Says x := by
  obtain ⟨subject, predicate, object, label⟩ := st
  simp only [quad, bind_ok_iff, Term.identifier_eq_ok, Term.value_eq_ok]
  constructor
  · rintro ⟨s, hs, p, hp, o, ho, h⟩
    cases label with
    | none =>
      cases h
      exact ⟨hs, hp, ho, .none⟩
    | some l =>
      obtain ⟨v, hv, h⟩ := bind_ok_iff.1 h
      cases h
      exact ⟨hs, hp, ho, .some (Term.identifier_eq_ok.1 hv)⟩
  · obtain ⟨s, p, o, l⟩ := x
    rintro ⟨hs, hp, ho, hl⟩
    refine ⟨s, hs, p, hp, o, ho, ?_⟩
    cases hl with
    | none => rfl
    | some hv => exact bind_ok_iff.2 ⟨_, Term.identifier_eq_ok.2 hv, rfl⟩

theorem quad_eq_error : st.quad = .error e ↔ st.Rejected e := by
  obtain ⟨subject, predicate, object, label⟩ := st
  simp only [quad, bind_error_iff, Term.identifier_eq_ok, Term.identifier_eq_error,
    Term.value_eq_ok, Term.value_eq_error]
  constructor
  · rintro (h | ⟨s, hs, h | ⟨p, hp, h | ⟨o, ho, h⟩⟩⟩)
    · exact .subject h
    · exact .predicate hs h
    · exact .object hs hp h
    · cases label with
      | none => cases h
      | some l =>
        obtain h | ⟨v, -, h⟩ := bind_error_iff.1 h
        · exact .label hs hp ho rfl (Term.identifier_eq_error.1 h)
        · cases h
  · intro h
    cases h with
    | subject h => exact .inl h
    | predicate hs h => exact .inr ⟨_, hs, .inl h⟩
    | object hs hp h => exact .inr ⟨_, hs, .inr ⟨_, hp, .inl h⟩⟩
    | label hs hp ho hl h =>
      refine .inr ⟨_, hs, .inr ⟨_, hp, .inr ⟨_, ho, ?_⟩⟩⟩
      cases hl
      exact bind_error_iff.2 (.inl (Term.identifier_eq_error.2 h))

end Statement

/-- Subject, predicate and label of a quad are identifiers: IRIs or blank nodes. -/
structure Quad.Identified (x : Quad) : Prop where
  subject : (x.subject.isIri || x.subject.isBlank) = true
  predicate : (x.predicate.isIri || x.predicate.isBlank) = true
  label : ∀ v, x.label = some v → (v.isIri || v.isBlank) = true

/-- No literal gets where an identifier belongs. -/
theorem Statement.Says.identified {st : Statement} {x : Quad} (h : st.Says x) : x.Identified where
  subject := h.subject.isIri_or_isBlank
  predicate := h.predicate.isIri_or_isBlank
  label := by
    intro v hv
    have hlabel := h.label
    rw [hv] at hlabel
    generalize st.label = label at hlabel
    cases hlabel with
    | some hname => exact hname.isIri_or_isBlank

/-! ### Files -/

namespace Statements

variable {found : Statements} {format : RdfFormat} {qs : List Quad} {e : LoadError}

/-- A file says some quads: it was read to its end, and each of its statements says one. -/
structure Say (found : Statements) (qs : List Quad) : Prop where
  complete : found.complete = true
  each : List.Forall₂ Statement.Says found.list qs

/-- Why a file says no quads. Of a term without a place and a fault after it, the term is told. -/
inductive Refused (format : RdfFormat) (found : Statements) : LoadError → Prop where
  /-- The first statement that says no quad is rejected for one of its terms. -/
  | term {before after : List Statement} {st : Statement} {e : TermError}
    (hlist : found.list = before ++ st :: after) (hbefore : ∀ st' ∈ before, ∃ x, st'.Says x)
    (h : st.Rejected e) : Refused format found (.unsupported format e)
  /-- All statements say quads, but the file was not read to its end. -/
  | fault (hlist : ∀ st ∈ found.list, ∃ x, st.Says x) (h : found.complete = false) :
    Refused format found (.malformed format)

theorem mapM_quad_eq_ok :
    found.list.mapM Statement.quad = .ok qs ↔ List.Forall₂ Statement.Says found.list qs := by
  simp only [mapM_ok_iff_forall₂, Statement.quad_eq_ok]

theorem quads_eq_ok : found.quads format = .ok qs ↔ found.Say qs := by
  unfold quads
  constructor
  · intro h
    cases hlist : found.list.mapM Statement.quad with
    | error e => simp [hlist] at h
    | ok quads =>
      cases hcomplete : found.complete with
      | false => simp [hlist, hcomplete] at h
      | true =>
        obtain rfl : quads = qs := by simpa [hlist, hcomplete] using h
        exact ⟨hcomplete, mapM_quad_eq_ok.1 hlist⟩
  · rintro ⟨hcomplete, hlist⟩
    rw [mapM_quad_eq_ok.2 hlist]
    exact if_pos hcomplete

theorem quads_eq_error : found.quads format = .error e ↔ found.Refused format e := by
  unfold quads
  constructor
  · intro h
    cases hlist : found.list.mapM Statement.quad with
    | error e' =>
      obtain rfl : .unsupported format e' = e := by simpa [hlist] using h
      obtain ⟨before, st, after, heq, hst, hbefore⟩ := mapM_error_iff.1 hlist
      have hsaid : ∀ st' ∈ before, ∃ x, st'.Says x := fun st' hst' =>
        (hbefore st' hst').imp fun _ => Statement.quad_eq_ok.1
      exact .term heq hsaid (Statement.quad_eq_error.1 hst)
    | ok quads =>
      cases hcomplete : found.complete with
      | true => simp [hlist, hcomplete] at h
      | false =>
        obtain rfl : .malformed format = e := by simpa [hlist, hcomplete] using h
        refine .fault (fun st hst => ?_) hcomplete
        obtain ⟨x, -, hx⟩ := exists_right_of_forall₂ (mapM_quad_eq_ok.1 hlist) hst
        exact ⟨x, hx⟩
  · intro h
    cases h with
    | @term before after st e heq hbefore h =>
      have hsaid : ∀ st' ∈ before, ∃ x, st'.quad = .ok x := fun st' hst' =>
        (hbefore st' hst').imp fun _ => Statement.quad_eq_ok.2
      have herror := mapM_error_iff.2 ⟨before, st, after, heq, Statement.quad_eq_error.2 h, hsaid⟩
      rw [herror]
    | fault hall hcomplete =>
      have hsaid : ∀ st ∈ found.list, ∃ x, st.quad = .ok x := fun st hst =>
        (hall st hst).imp fun _ => Statement.quad_eq_ok.2
      obtain ⟨quads, hquads⟩ := exists_map_eq_ok hsaid
      rw [mapM_ok_iff.2 hquads]
      exact if_neg (Bool.eq_false_iff.1 hcomplete)

/-- **A file says quads or is refused, and never both.** -/
theorem Refused.not_say (h : found.Refused format e) (qs : List Quad) : ¬ found.Say qs := by
  intro hsay
  have hok : found.quads format = .ok qs := quads_eq_ok.2 hsay
  rw [quads_eq_error.2 h] at hok
  cases hok

theorem Say.identified (h : found.Say qs) : ∀ x ∈ qs, x.Identified := by
  intro x hx
  have hback : List.Forall₂ (fun x (st : Statement) => st.Says x) qs found.list :=
    List.Forall₂.flip h.each
  obtain ⟨st, -, hst⟩ := exists_right_of_forall₂ hback hx
  exact hst.identified

end Statements

end QuadWalk
