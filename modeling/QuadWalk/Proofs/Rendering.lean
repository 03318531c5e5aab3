import Mathlib.Data.List.Forall2
import QuadWalk.Proofs.Stripping
import QuadWalk.Proofs.TotalOrder
import QuadWalk.Value.Json
import QuadWalk.Value.Literal

/-!
# The linked-data form loses nothing

Eight forms of values share a few forms of JSON: an IRI and a blank node are both written as an
object with `@id`, and an infinite double looks like a literal of a datatype that has no form of its
own. Nevertheless the form can be read back (`Value.ofLinkedData?_toLinkedData`), if no IRI looks
like a blank node, if not-a-numbers are left out, and if the literals are those that a graph file
can hold. The last is needed for the infinities: there is a value that keeps the lexical form `inf`
with the datatype of doubles, but no literal comes to it, since `inf` denotes a double.

So values with one linked-data form are equal (`Value.eq_of_same_toLinkedData`). The order of the
fields of a JSON object does not matter, so two forms count as one when they differ in that order
only (`Json.Same`).
-/

namespace QuadWalk

/-! ### JSON up to the order of fields -/

namespace Json

/-- Two JSON trees are the same: integers and doubles are different numbers, doubles are told apart
by their bits, and objects have the same fields in whatever order. -/
inductive Same : Json → Json → Prop where
  | null : Same .null .null
  | bool (b : Bool) : Same (.bool b) (.bool b)
  | int (n : Int) : Same (.int n) (.int n)
  | float (x : Binary64) : Same (.float x) (.float x)
  | string (s : String) : Same (.string s) (.string s)
  | array {items items' : List Json} (h : List.Forall₂ Same items items') :
    Same (.array items) (.array items')
  | object {fields fields' : List (String × Json)}
    (h : ∀ name, Option.Rel Same (fields.lookup name) (fields'.lookup name)) :
    Same (.object fields) (.object fields')

theorem Same.refl : (j : Json) → j.Same j
  | .null => .null
  | .bool b => .bool b
  | .int n => .int n
  | .float x => .float x
  | .string s => .string s
  | .array items => .array (List.forall₂_same.2 fun j hj => refl j)
  | .object fields => .object fun name => by
    cases h : fields.lookup name with
    | none => exact .none
    | some j =>
      have hmem : (name, j) ∈ fields := by
        obtain ⟨_, _, rfl, -⟩ := List.lookup_eq_some_iff.1 h
        simp
      exact .some (refl j)
termination_by j => sizeOf j
decreasing_by
  · have hlt := List.sizeOf_lt_of_mem hj
    rw [array.sizeOf_spec]
    omega
  · have hlt := List.sizeOf_lt_of_mem hmem
    rw [Prod.mk.sizeOf_spec] at hlt
    rw [object.sizeOf_spec]
    omega

/-- The text of a field of an object. -/
def fieldText? (fields : List (String × Json)) (name : String) : Option String :=
  match fields.lookup name with
  | some (.string text) => some text
  | _ => none

theorem fieldText?_eq {fields fields' : List (String × Json)} {name : String}
    (h : Option.Rel Same (fields.lookup name) (fields'.lookup name)) :
    fieldText? fields name = fieldText? fields' name := by
  unfold fieldText?
  generalize fields.lookup name = found at h ⊢
  generalize fields'.lookup name = found' at h ⊢
  cases h with
  | none => rfl
  | some h => cases h <;> rfl

end Json

/-! ### Infinities -/

namespace Binary64

/-- What is neither finite nor a not-a-number is an infinity. -/
theorem eq_infinity {x : Binary64} (hfinite : x.isFinite = false) (hnan : x.isNaN = false) :
    x = infinity x.isNegative := by
  have hmagnitude : x.magnitude = infinityMagnitude := by
    simp only [isFinite, isNaN, decide_eq_false_iff_not] at hfinite hnan
    omega
  have hkey (b : Bool) : (infinity b).totalKey =
      if b then -1 - (infinityMagnitude : Int) else infinityMagnitude := by
    cases b <;> decide
  refine eq_of_totalKey ?_
  rw [totalKey, hmagnitude, hkey]

/-- The name of an infinity is read as this infinity. -/
theorem binary64?_toText_infinity (negative : Bool) :
    Numeral.binary64? (Text.trim (infinity negative).toText.toList) = some (infinity negative) := by
  rw [Text.trim_eq]
  cases negative <;> decide +kernel

end Binary64

namespace Value

variable {lexical datatype : String}

/-! ### What literals come to -/

/-- A literal whose lexical form denotes a double, the datatype being one of numbers, comes to this
double. -/
theorem ofTyped_of_binary64? (hdatatype : datatype ∈ Datatype.floats) {x : Binary64}
    (h : Numeral.binary64? (Text.trim lexical.toList) = some x) :
    ofTyped lexical datatype = float x := by
  have hapart : ∀ d ∈ Datatype.floats,
      ¬ (d = Datatype.string ∨ d = Datatype.langString) ∧ d ∉ Datatype.integers := by
    decide +kernel
  obtain ⟨htext, hinteger⟩ := hapart datatype hdatatype
  unfold ofTyped
  simp only [if_neg htext, if_neg hinteger, if_pos hdatatype, h, Option.map_some,
    Option.getD_some]

/-- A literal with a datatype comes to a plain text, a number or a truth value, or it is kept. -/
theorem ofTyped_cases (lexical datatype : String) :
    ofTyped lexical datatype = string lexical ∨ (∃ n, ofTyped lexical datatype = int n) ∨
      (∃ x, ofTyped lexical datatype = float x) ∨ (∃ b, ofTyped lexical datatype = bool b) ∨
      ofTyped lexical datatype = typed lexical datatype := by
  unfold ofTyped
  by_cases htext : datatype = Datatype.string ∨ datatype = Datatype.langString
  · exact .inl (if_pos htext)
  simp only [if_neg htext]
  by_cases hinteger : datatype ∈ Datatype.integers
  · simp only [if_pos hinteger]
    cases Numeral.int64? (Text.trim lexical.toList) <;> simp
  simp only [if_neg hinteger]
  by_cases hfloat : datatype ∈ Datatype.floats
  · simp only [if_pos hfloat]
    cases Numeral.binary64? (Text.trim lexical.toList) <;> simp
  simp only [if_neg hfloat]
  by_cases hbool : datatype = Datatype.boolean
  · simp only [if_pos hbool]
    cases bool? (Text.trim lexical.toList) <;> simp
  · simp [if_neg hbool]

/-- The values that can be told by their linked-data form: IRIs that do not look like blank nodes,
blank nodes, and what literals come to, unless it is a not-a-number. -/
inductive Renderable : Value → Prop where
  | iri (text : String) (h : ¬ ['_', ':'] <+: text.toList) : Renderable (.iri text)
  | blank (label : String) : Renderable (.blank label)
  | literal (lexical : String) (datatype language : Option String)
    (h : ∀ x, ofLiteral lexical datatype language = float x → x.isNaN = false) :
    Renderable (ofLiteral lexical datatype language)

/-! ### Reading the form -/

/-- The identifier that an `@id` gives. -/
def ofIdentifier (text : String) : Value :=
  match text.toList with
  | '_' :: ':' :: label => blank (String.ofList label)
  | _ => iri text

/-- Reads the linked-data form. -/
def ofLinkedData? : Json → Option Value
  | .bool b => some (bool b)
  | .int n => some (int (Int64.ofInt n))
  | .float x => some (float x)
  | .string text => some (string text)
  | .object fields =>
    match Json.fieldText? fields "@id", Json.fieldText? fields "@value" with
    | some text, _ => some (ofIdentifier text)
    | none, some lexical =>
      some (ofLiteral lexical (Json.fieldText? fields "@type") (Json.fieldText? fields "@language"))
    | none, none => none
  | .null | .array _ => none

/-- What is read does not depend on the order of fields. -/
theorem ofLinkedData?_eq {j k : Json} (h : j.Same k) : ofLinkedData? j = ofLinkedData? k := by
  cases h with
  | object h => simp only [ofLinkedData?, Json.fieldText?_eq (h _)]
  | _ => rfl

theorem ofIdentifier_blank (label : String) : ofIdentifier ("_:" ++ label) = blank label := by
  have htext : ("_:" ++ label).toList = '_' :: ':' :: label.toList := by simp
  rw [ofIdentifier, htext]
  simp

theorem ofIdentifier_iri {text : String} (h : ¬ ['_', ':'] <+: text.toList) :
    ofIdentifier text = iri text := by
  unfold ofIdentifier
  split
  · rename_i label htext
    exact absurd ⟨label, htext.symm⟩ h
  · rfl

/-- An object with a lexical form and a datatype is read as the literal with these. -/
theorem ofLinkedData?_typedObject (lexical datatype : String) :
    ofLinkedData? (typedObject lexical datatype) = some (ofTyped lexical datatype) := rfl

theorem ofLinkedData?_float {x : Binary64} (h : x.isNaN = false) :
    ofLinkedData? (float x).toLinkedData = some (float x) := by
  cases hfinite : x.isFinite with
  | true => simp only [toLinkedData, hfinite, if_true, ofLinkedData?]
  | false =>
    have hinfinity := Binary64.eq_infinity hfinite h
    have htext : ofTyped x.toText Datatype.double = float x := by
      rw [hinfinity]
      exact ofTyped_of_binary64? List.mem_cons_self (Binary64.binary64?_toText_infinity _)
    simp only [toLinkedData, hfinite, Bool.false_eq_true, if_false, ofLinkedData?_typedObject,
      htext]

/-- What a literal with a datatype comes to is read back. If the literal is kept as it is, then it
is read as a literal again, and this comes to the same. -/
theorem ofLinkedData?_ofTyped
    (hnan : ∀ x, ofTyped lexical datatype = float x → x.isNaN = false) :
    ofLinkedData? (ofTyped lexical datatype).toLinkedData = some (ofTyped lexical datatype) := by
  obtain h | ⟨n, h⟩ | ⟨x, h⟩ | ⟨b, h⟩ | h := ofTyped_cases lexical datatype
  · rw [h]
    rfl
  · rw [h, toLinkedData, ofLinkedData?, Int64.ofInt_toInt]
  · rw [h]
    exact ofLinkedData?_float (hnan x h)
  · rw [h]
    rfl
  · have hread := ofLinkedData?_typedObject lexical datatype
    rw [h] at hread ⊢
    exact hread

/-- **The linked-data form can be read back.** -/
theorem ofLinkedData?_toLinkedData {v : Value} (h : v.Renderable) :
    ofLinkedData? v.toLinkedData = some v := by
  cases h with
  | iri text h => exact congrArg some (ofIdentifier_iri h)
  | blank label => exact congrArg some (ofIdentifier_blank label)
  | literal lexical datatype language h =>
    cases language with
    | some language => rfl
    | none =>
      cases datatype with
      | some datatype => exact ofLinkedData?_ofTyped h
      | none => rfl

/-- **The linked-data form loses nothing.** Two IRIs that do not look like blank nodes, blank nodes,
or values of literals other than not-a-numbers are equal if their linked-data forms are the same
JSON. -/
theorem eq_of_same_toLinkedData {v w : Value} (hv : v.Renderable) (hw : w.Renderable)
    (h : v.toLinkedData.Same w.toLinkedData) : v = w := by
  have hread := ofLinkedData?_eq h
  rw [ofLinkedData?_toLinkedData hv, ofLinkedData?_toLinkedData hw] at hread
  exact Option.some.inj hread

/-- Infinity as a double, with a sign and blanks. -/
def signedInfinity : Value := ofLiteral " +INF " (some Datatype.double) none

/-- Infinity as a decimal, spelled out. -/
def spelledInfinity : Value := ofLiteral "infinity" (some (Datatype.schema "decimal")) none

theorem eq_of_same_toLinkedData_infinity :
    signedInfinity.Renderable ∧ spelledInfinity.Renderable ∧
      signedInfinity.toLinkedData.Same spelledInfinity.toLinkedData ∧
      signedInfinity = spelledInfinity := by
  have hdecimal : Datatype.schema "decimal" ∈ Datatype.floats := by decide +kernel
  have hsigned : signedInfinity = float (.infinity false) := by
    show ofTyped " +INF " Datatype.double = _
    refine ofTyped_of_binary64? List.mem_cons_self ?_
    rw [Text.trim_eq]
    decide +kernel
  have hspelled : spelledInfinity = float (.infinity false) := by
    show ofTyped "infinity" (Datatype.schema "decimal") = _
    refine ofTyped_of_binary64? hdecimal ?_
    rw [Text.trim_eq]
    decide +kernel
  have hnumber : (Binary64.infinity false).isNaN = false := by decide
  have hrenderable : signedInfinity.Renderable :=
    .literal _ _ _ fun x hx => by rw [← float.inj (hsigned.symm.trans hx), hnumber]
  have hrenderable' : spelledInfinity.Renderable :=
    .literal _ _ _ fun x hx => by rw [← float.inj (hspelled.symm.trans hx), hnumber]
  have hsame : signedInfinity.toLinkedData.Same spelledInfinity.toLinkedData := by
    rw [hsigned, hspelled]
    exact .refl _
  exact ⟨hrenderable, hrenderable', hsame, eq_of_same_toLinkedData hrenderable hrenderable' hsame⟩

end Value

end QuadWalk
