import QuadWalk.Proofs.Flow
import QuadWalk.Proofs.Mismatch

/-!
# The parts of a step

`Step.parts` lists all steps that a step is made of, at any depth and itself included, so that what
a query may be built from can be said of its parts one by one.

`Step.row_induction` is induction on steps along the way of their rows: steps that go row by row are
one case.
-/

namespace QuadWalk.Step

/-! ### Parts -/

mutual

/-- A step and all steps inside of it. -/
def parts : Step → List Step
  | entities ids => [entities ids]
  | vertex values => [vertex values]
  | placeholder => [placeholder]
  | visit t o property => visit t o property :: (parts o ++ parts property)
  | back o => back o :: parts o
  | backTo o tag => backTo o tag :: parts o
  | properties d o names => properties d o names :: parts o
  | propertyNames d o => propertyNames d o :: parts o
  | propertyNamesAs d o tag => propertyNamesAs d o tag :: parts o
  | has d o property values => has d o property values :: (parts o ++ parts property)
  | isOneOf o values => isOneOf o values :: parts o
  | combine operation o ss => combine operation o ss :: (parts o ++ partsEach ss)
  | filter o condition => filter o condition :: parts o
  | compare c o operand => compare c o operand :: parts o
  | count o => count o :: parts o
  | limit o n => limit o n :: parts o
  | skip o n => skip o n :: parts o
  | unique o => unique o :: parts o
  | order o => order o :: parts o
  | tagged o name => tagged o name :: parts o
  | whereAll o ss => whereAll o ss :: (parts o ++ partsEach ss)
  | optional o s => optional o s :: (parts o ++ parts s)
  | follow o s => follow o s :: (parts o ++ parts s)
  | select o tags => select o tags :: parts o
  | selectFirst o => selectFirst o :: parts o
  | documents o => documents o :: parts o

/-- The parts of some steps. -/
def partsEach : List Step → List Step
  | [] => []
  | s :: ss => parts s ++ partsEach ss

end

theorem mem_partsEach_iff {ss : List Step} {t : Step} :
    t ∈ partsEach ss ↔ ∃ s ∈ ss, t ∈ s.parts := by
  induction ss with
  | nil => simp [partsEach]
  | cons s ss ih => simp [partsEach, ih]

/-- The step itself is one of its parts. -/
theorem mem_parts_self (s : Step) : s ∈ s.parts := by
  cases s <;> simp [parts]

variable {s o t : Step}

/-- The parts of the step on whose results a step acts are parts of that. -/
theorem mem_parts_of_previous (h : s.previous? = some o) (ht : t ∈ o.parts) : t ∈ s.parts := by
  revert h
  fun_cases previous? s <;> simp only [Option.some.injEq, reduceCtorEq, false_implies] <;>
    rintro rfl <;> simp [parts, ht]

theorem sizeOf_lt_of_previous (h : s.previous? = some o) : sizeOf o < sizeOf s := by
  revert h
  fun_cases previous? s <;> simp <;> rintro rfl <;> omega

/-- The parts of the property of a traversal are parts of that. -/
theorem mem_parts_of_visited {tr : Traversal} {property : Step} (ht : t ∈ property.parts) :
    t ∈ (visit tr o property).parts :=
  List.mem_cons_of_mem _ (List.mem_append_right _ ht)

/-- The parts of the property of a test are parts of that. -/
theorem mem_parts_of_had {d : Direction} {property : Step} {values : List Value}
    (ht : t ∈ property.parts) : t ∈ (has d o property values).parts :=
  List.mem_cons_of_mem _ (List.mem_append_right _ ht)

/-- The parts of the steps of a set operation are parts of that. -/
theorem mem_parts_of_combined {operation : SetOperation} {ss : List Step} {b : Step} (hb : b ∈ ss)
    (ht : t ∈ b.parts) : t ∈ (combine operation o ss).parts :=
  List.mem_cons_of_mem _ (List.mem_append_right _ (mem_partsEach_iff.2 ⟨b, hb, ht⟩))

/-- The parts of a branch of a condition are parts of that. -/
theorem mem_parts_of_branch {ss : List Step} {b : Step} (hb : b ∈ ss) (ht : t ∈ b.parts) :
    t ∈ (whereAll o ss).parts :=
  List.mem_cons_of_mem _ (List.mem_append_right _ (mem_partsEach_iff.2 ⟨b, hb, ht⟩))

/-- The parts of an option are parts of the step that tries it. -/
theorem mem_parts_of_option {b : Step} (ht : t ∈ b.parts) : t ∈ (optional o b).parts :=
  List.mem_cons_of_mem _ (List.mem_append_right _ ht)

/-- The parts of a fragment are parts of the step that follows it. -/
theorem mem_parts_of_fragment {f : Step} (ht : t ∈ f.parts) : t ∈ (follow o f).parts :=
  List.mem_cons_of_mem _ (List.mem_append_right _ ht)

/-- The parts of a step without a result shape at its root are parts of the step. -/
theorem mem_parts_of_shape (ht : t ∈ s.shape.1.parts) : t ∈ s.parts := by
  cases s <;> simp_all [shape, parts]

theorem previous_of_origin {marks : List String} (h : s.origin? = some (o, marks)) :
    s.previous? = some o := by
  revert h
  fun_cases origin? s <;> simp [previous?] <;> rintro rfl - <;> rfl

/-! ### Induction -/

/-- What holds of the steps that begin rows, and is passed on by steps that go row by row, unions,
counts, joins and fragments, holds of all steps. -/
@[elab_as_elim]
theorem row_induction {P : Step → Prop} (entities : ∀ ids, P (.entities ids))
    (vertex : ∀ values, P (.vertex values)) (placeholder : P .placeholder)
    (origin : ∀ {s o marks}, s.origin? = some (o, marks) → P o → P s)
    (union : ∀ {o ss}, P o → (∀ b ∈ ss, P b) → P (.combine .union o ss))
    (count : ∀ {o}, P o → P (.count o))
    (whereAll : ∀ {o ss}, P o → (∀ b ∈ ss, P b) → P (.whereAll o ss))
    (optional : ∀ {o b}, P o → P b → P (.optional o b))
    (follow : ∀ {o f}, P o → P f → P (.follow o f)) (s : Step) : P s := by
  have ih (t : Step) (ht : sizeOf t < sizeOf s) : P t :=
    row_induction entities vertex placeholder origin union count whereAll optional follow t
  have of_origin {o : Step} {marks : List String} (ho : s.origin? = some (o, marks)) : P s :=
    origin ho (ih o (sizeOf_lt_of_origin ho))
  have of_mem {ss : List Step} {b : Step} (hss : sizeOf ss < sizeOf s) (hb : b ∈ ss) : P b :=
    ih b (Nat.lt_trans (List.sizeOf_lt_of_mem hb) hss)
  cases s with
  | entities ids => exact entities ids
  | vertex values => exact vertex values
  | placeholder => exact placeholder
  | combine operation o ss =>
    cases operation with
    | union =>
      exact union (ih o (by simp only [Step.combine.sizeOf_spec]; omega)) fun b =>
        of_mem (by simp only [Step.combine.sizeOf_spec]; omega)
    | intersect => exact of_origin rfl
    | difference => exact of_origin rfl
  | count o => exact count (ih o (by simp))
  | whereAll o ss =>
    exact whereAll (ih o (by simp only [Step.whereAll.sizeOf_spec]; omega)) fun b =>
      of_mem (by simp only [Step.whereAll.sizeOf_spec]; omega)
  | optional o b =>
    exact optional (ih o (by simp only [Step.optional.sizeOf_spec]; omega))
      (ih b (by simp only [Step.optional.sizeOf_spec]; omega))
  | follow o f =>
    exact follow (ih o (by simp only [Step.follow.sizeOf_spec]; omega))
      (ih f (by simp only [Step.follow.sizeOf_spec]; omega))
  | _ => exact of_origin rfl
termination_by sizeOf s

end QuadWalk.Step
