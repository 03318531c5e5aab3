import QuadWalk.Proofs.Meaning
import QuadWalk.Proofs.Reachable

/-!
# The errors of a planned step

What can go wrong when a planned step is run? A step that is planned has sound identifiers and
patterns and comparable operands, so besides the faults of the graph and the errors of the items for
which its placeholder stands only one cause is left: a comparison that meets a value without a
natural order. `Step.Mismatch` tells such an error together with the row at which it arises, in
terms of what running the step runs on the way (`Step.Runs`).

`Step.all_of_plans` is the statement, for a graph that serves a set of nodes: the rows of a planned
step stay on these nodes, and its errors have one of the causes.
-/

namespace QuadWalk

/-! ### Values without a natural order -/

/-- Only blank nodes and not-a-numbers take no part in the natural order. -/
theorem Value.isOrderable_eq_false_iff {v : Value} :
    v.isOrderable = false ↔ (∃ label, v = .blank label) ∨ ∃ x, v = .float x ∧ x.isNaN = true := by
  cases v <;> simp [isOrderable]

/-- A comparison with an operand that was checked fails for the value that is compared with it. -/
theorem Comparison.evaluate_eq_error {c : Comparison} {v operand : Value} {e : Incomparable}
    (hc : c.checkOperand operand = .ok ()) (h : c.evaluate v operand = .error e) :
    v.isOrderable = false ∧ e = ⟨c, false, v⟩ := by
  have hoperand : operand.isOrderable = true := by
    unfold checkOperand at hc
    split at hc
    · assumption
    · simp at hc
  unfold evaluate Value.naturalCmp at h
  cases hv : v.isOrderable with
  | false =>
    simp only [hv, Bool.not_false, if_true, Except.error.injEq] at h
    exact ⟨rfl, h.symm⟩
  | true =>
    simp only [hv, hoperand, Bool.not_true, Bool.false_eq_true, if_false] at h
    split at h
    · simp at h
    · simp at h
    · rename_i hcmp
      split at hcmp <;> simp at hcmp

namespace Step

open Items

/-! ### What a step runs -/

/-- The step on whose results a step acts. -/
def previous? : Step → Option Step
  | visit _ o _ | back o | backTo o _ | properties _ o _ | propertyNames _ o
  | propertyNamesAs _ o _ | has _ o _ _ | isOneOf o _ | combine _ o _ | filter o _ | compare _ o _
  | count o | limit o _ | skip o _ | unique o | order o | tagged o _ | whereAll o _ | optional o _
  | follow o _ | select o _ | selectFirst o | documents o => some o
  | entities _ | vertex _ | placeholder => none

/-- To have its items, given those for which its placeholder stands, a step needs the items of
another one, given those for which the placeholder of that stands. -/
inductive Calls (sizeLimit : Nat) (g : Graph) : Step → Items → Step → Items → Prop
  | previous {s o : Step} {ph : Items} (h : s.previous? = some o) : Calls sizeLimit g s ph o ph
  | visited {t : Traversal} {o property : Step} {ph : Items} :
      Calls sizeLimit g (.visit t o property) ph property ph
  | had {d : Direction} {o property : Step} {values : List Value} {ph : Items} :
      Calls sizeLimit g (.has d o property values) ph property ph
  | combined {operation : SetOperation} {o b : Step} {ss : List Step} {ph : Items} (h : b ∈ ss) :
      Calls sizeLimit g (.combine operation o ss) ph b ph
  | condition {o b : Step} {ss : List Step} {ph : Items} {r : Row} (h : b ∈ ss)
      (hr : .ok r ∈ (o.meaning sizeLimit g ph).toList) :
      Calls sizeLimit g (.whereAll o ss) ph b (ofRows [r])
  | option {o b : Step} {ph : Items} {r : Row}
      (hr : .ok r ∈ (o.meaning sizeLimit g ph).toList) :
      Calls sizeLimit g (.optional o b) ph b (ofRows [r])
  | fragment {o s : Step} {ph : Items} :
      Calls sizeLimit g (.follow o s) ph s (o.meaning sizeLimit g ph)

/-- What may be run when a step is run: the step itself, what it calls, what that calls, and so on.
How much of it is run depends on how many items are asked for. -/
inductive Runs (sizeLimit : Nat) (g : Graph) : Step → Items → Step → Items → Prop
  | refl {s : Step} {ph : Items} : Runs sizeLimit g s ph s ph
  | call {s s' t : Step} {ph ph' input : Items} (h : Calls sizeLimit g s ph s' ph')
      (h' : Runs sizeLimit g s' ph' t input) : Runs sizeLimit g s ph t input

mutual

/-- The comparisons of a step with their operands, at any depth. -/
def comparisons : Step → List (Comparison × Value)
  | entities _ | vertex _ | placeholder => []
  | visit _ o property => comparisons o ++ comparisons property
  | has _ o property _ => comparisons o ++ comparisons property
  | combine _ o ss => comparisons o ++ comparisonsEach ss
  | compare c o operand => (c, operand) :: comparisons o
  | whereAll o ss => comparisons o ++ comparisonsEach ss
  | optional o s => comparisons o ++ comparisons s
  | follow o s => comparisons o ++ comparisons s
  | back o | backTo o _ | properties _ o _ | propertyNames _ o | propertyNamesAs _ o _
  | isOneOf o _ | filter o _ | count o | limit o _ | skip o _ | unique o | order o | tagged o _
  | select o _ | selectFirst o | documents o => comparisons o

/-- The comparisons of some steps. -/
def comparisonsEach : List Step → List (Comparison × Value)
  | [] => []
  | s :: ss => comparisons s ++ comparisonsEach ss

end

variable {sizeLimit : Nat} {g : Graph}

theorem mem_comparisonsEach {ss : List Step} {b : Step} (hb : b ∈ ss) {x : Comparison × Value}
    (hx : x ∈ b.comparisons) : x ∈ comparisonsEach ss := by
  induction ss with
  | nil => simp at hb
  | cons s ss ih =>
    rw [comparisonsEach, List.mem_append]
    rcases List.mem_cons.1 hb with rfl | hb
    · exact .inl hx
    · exact .inr (ih hb)

theorem Calls.comparisons_subset {s s' : Step} {ph ph' : Items} (h : Calls sizeLimit g s ph s' ph')
    {x : Comparison × Value} (hx : x ∈ s'.comparisons) : x ∈ s.comparisons := by
  cases h with
  | previous h =>
    revert h
    fun_cases previous? s <;> simp only [Option.some.injEq, reduceCtorEq, false_implies] <;>
      rintro rfl <;> simp [comparisons, hx]
  | visited => simp [comparisons, hx]
  | had => simp [comparisons, hx]
  | combined hb => simp [comparisons, mem_comparisonsEach hb hx]
  | condition hb _ => simp [comparisons, mem_comparisonsEach hb hx]
  | option _ => simp [comparisons, hx]
  | fragment => simp [comparisons, hx]

/-- The comparisons that are run are those of the step. -/
theorem Runs.mem_comparisons {s o : Step} {ph input : Items} {c : Comparison} {operand : Value}
    (h : Runs sizeLimit g s ph (.compare c o operand) input) :
    (c, operand) ∈ s.comparisons := by
  generalize ht : Step.compare c o operand = t at h
  induction h with
  | refl => simp [← ht, comparisons]
  | call hcall _ ih => exact hcall.comparisons_subset (ih ht)

/-- An error of a comparison: running the step may run a comparison, and at one of the rows that it
compares there is a blank node or a not-a-number, which the error names. -/
def Mismatch (sizeLimit : Nat) (g : Graph) (s : Step) (ph : Items) (e : QueryError) : Prop :=
  ∃ c o operand input r v, Runs sizeLimit g s ph (.compare c o operand) input ∧
    .ok r ∈ (o.meaning sizeLimit g input).toList ∧ g.valueAt r.position = .ok v ∧
    ((∃ label, v = .blank label) ∨ ∃ x, v = .float x ∧ x.isNaN = true) ∧
    e = .typeMismatch ⟨c, false, v⟩

theorem Mismatch.call {s s' : Step} {ph ph' : Items} {e : QueryError}
    (hcall : Calls sizeLimit g s ph s' ph') (h : Mismatch sizeLimit g s' ph' e) :
    Mismatch sizeLimit g s ph e := by
  obtain ⟨c, o, operand, input, r, v, hruns, h⟩ := h
  exact ⟨c, o, operand, input, r, v, .call hcall hruns, h⟩

/-- A step without comparisons has no such errors. -/
theorem not_mismatch {s : Step} {ph : Items} {e : QueryError} (h : s.comparisons = []) :
    ¬ Mismatch sizeLimit g s ph e := by
  rintro ⟨c, o, operand, input, r, v, hruns, -⟩
  have hmem := hruns.mem_comparisons
  rw [h] at hmem
  exact List.not_mem_nil hmem

/-! ### One rule after the other -/

/-- An error of a step has a cause outside of it, or is one of its comparisons. -/
def Raises (sizeLimit : Nat) (g : Graph) (E : QueryError → Prop) (s : Step) (ph : Items)
    (e : QueryError) : Prop :=
  E e ∨ Mismatch sizeLimit g s ph e

variable {N : NodeId → Prop} {F : StoreError → Prop} {E : QueryError → Prop} {s s' : Step}
  {ph ph' : Items}

/-- What a step calls has no errors that the step does not have. -/
theorem all_of_calls {items : Items} {R : Row → Prop} (hcall : Calls sizeLimit g s ph s' ph')
    (h : items.All R (Raises sizeLimit g E s' ph')) : items.All R (Raises sizeLimit g E s ph) :=
  h.mono (fun _ hr => hr) fun _ he => he.imp_right (.call hcall)

theorem compares_yields (hg : g.Serves N F) (hE : ∀ f, F f → E (.storeFault f)) {c : Comparison}
    {o : Step} {operand : Value} (hc : c.checkOperand operand = .ok ()) {r : Row}
    (hr : .ok r ∈ (o.meaning sizeLimit g ph).toList) (hon : r.On N) :
    Yields (fun _ => True) (Raises sizeLimit g E (.compare c o operand) ph)
      (g.compares c operand r) := by
  have hvalue := hg.valueAt hE hon.position
  unfold Graph.compares
  cases hv : g.valueAt r.position with
  | error e =>
    rw [hv] at hvalue
    exact .inl hvalue
  | ok v =>
    simp only [bind, Except.bind]
    cases he : c.evaluate v operand with
    | ok holds => trivial
    | error e =>
      obtain ⟨horderable, rfl⟩ := Comparison.evaluate_eq_error hc he
      refine .inr ⟨c, o, operand, ph, r, v, .refl, hr, hv, ?_, rfl⟩
      exact Value.isOrderable_eq_false_iff.1 horderable

/-- The operator that a step puts on its origin keeps rows on nodes and errors to their causes. -/
theorem all_applies {o : Step} {po : Planned} {p : Plan} (hg : g.Serves N F)
    (hE : ∀ f, F f → E (.storeFault f)) (h : Applies sizeLimit o po s p)
    (ho : (o.meaning sizeLimit g ph).All (Row.On N) (Raises sizeLimit g E s ph)) :
    (s.meaning sizeLimit g ph).All (Row.On N) (Raises sizeLimit g E s ph) := by
  have hfaults : ∀ f, F f → Raises sizeLimit g E s ph (.storeFault f) := fun f hf => .inl (hE f hf)
  cases h with
  | back _ => exact ho.change fun r r' hr => hr.back?
  | backTo _ => exact ho.change fun r r' hr => hr.backTo?
  | propertyNames =>
    exact (ho.expand fun r _ hr => hg.walkToPredicates hfaults hr _).unique
  | isOneOf _ => exact ho.isOneOf
  | filter hm =>
    simp only [meaning, hm, drain]
    exact ho.keep fun r _ hr => hg.passes hfaults hr _
  | compare hc => exact ho.keep fun r hmem hr => compares_yields hg hE hc hmem hr
  | limit => exact All.limit ho
  | skip => exact ho.skip
  | unique => exact ho.unique
  | order => exact ho.order fun r hr => hg.valueAt hfaults hr.position

theorem all_foldl_save (hg : g.Serves N F) (hE : ∀ f, F f → E (.storeFault f)) {d : Direction}
    {names : List String} {items : Items} (h : items.All (Row.On N) E) :
    (names.foldl (fun items name =>
      expand (g.save d (.ofList (g.lookupAll [.iri name])) name) items) items).All (Row.On N) E := by
  induction names generalizing items with
  | nil => exact h
  | cons name names ih => exact ih (h.expand fun r _ hr => hg.save hE hr _ _ _)

/-- The branches of a step keep to nodes and causes if each of them does. -/
theorem all_of_mem_meaningEach {bs : List Branch} {b : Unit → Items}
    (h : ∀ b ∈ bs, (b.step.meaning sizeLimit g ph).All (Row.On N) E)
    (hb : b ∈ meaningEach sizeLimit g (bs.map Branch.step) ph) : (b ()).All (Row.On N) E := by
  rw [meaningEach_eq_map, List.map_map] at hb
  obtain ⟨branch, hbranch, rfl⟩ := List.mem_map.1 hb
  exact h branch hbranch

/-- **The rows of a planned step stay on the nodes that the graph serves, and its errors are faults
of the graph, errors of the items for which its placeholder stands, or mismatches.** The induction
is on the derivation, for all such items and all causes at once: the items of a followed step have
errors of their own, which are causes outside of the fragment. -/
theorem all_of_plans (hg : g.Serves N F) {e : Bindings} {n m : Supply} {p : Planned}
    (h : Plans sizeLimit s e n p m) (hE : ∀ f, F f → E (.storeFault f))
    (hph : ph.All (Row.On N) E) :
    (s.meaning sizeLimit g ph).All (Row.On N) (Raises sizeLimit g E s ph) := by
  induction h generalizing ph E with
  | @entities _ values _ _ hv =>
    simp only [meaning, hv, drain]
    refine All.ofRows fun r hr => ?_
    obtain ⟨id, hid, rfl⟩ := List.mem_map.1 hr
    exact .atNode (hg.lookupAll hid)
  | @vertex values =>
    refine All.ofRows fun r hr => ?_
    obtain ⟨id, hid, rfl⟩ := List.mem_map.1 hr
    split at hid
    · exact .atNode (hg.nodes id hid)
    · exact .atNode (hg.lookupAll hid)
  | placeholder => exact hph.mono (fun _ hr => hr) fun _ he => .inl he
  | @apply s o _ _ _ _ _ _ ha iho =>
    have hprevious : s.previous? = some o := by cases ha <;> rfl
    exact all_applies hg hE ha (all_of_calls (.previous hprevious) (iho hE hph))
  | @visit t o property _ _ _ _ _ _ _ _ iho ihs =>
    have ho := all_of_calls (s := .visit t o property) (.previous rfl) (iho hE hph)
    have hs := all_of_calls (s := .visit t o property) .visited (ihs hE hph)
    refine All.drain hs.nodeSet? fun predicates _ => ?_
    exact ho.expand fun r _ hr => hg.walk (fun f hf => .inl (hE f hf)) hr _ _
  | @has d o property values _ _ _ _ _ _ _ _ _ iho ihs =>
    have ho := all_of_calls (s := .has d o property values) (.previous rfl) (iho hE hph)
    have hs := all_of_calls (s := .has d o property values) .had (ihs hE hph)
    refine All.drain hs.nodeSet? fun predicates _ => ?_
    exact ho.keep fun r _ hr => hg.reaches (fun f hf => .inl (hE f hf)) hr _ _ _
  | @combine operation o _ _ _ _ _ bs _ _ _ _ iho ihs =>
    have ho := all_of_calls (s := .combine operation o (bs.map Branch.step)) (.previous rfl)
      (iho hE hph)
    have hbs (b : Branch) (hb : b ∈ bs) :=
      all_of_calls (s := .combine operation o (bs.map Branch.step))
        (.combined (List.mem_map_of_mem hb)) (ihs b hb hE hph)
    cases operation with
    | union => exact ho.union fun b => all_of_mem_meaningEach hbs
    | intersect => exact All.siftBy ho fun b => all_of_mem_meaningEach hbs
    | difference => exact All.siftBy ho fun b => all_of_mem_meaningEach hbs
  | @properties d o names _ _ _ _ _ _ _ _ _ iho =>
    have ho := all_of_calls (s := .properties d o names) (.previous rfl) (iho hE hph)
    exact all_foldl_save hg (fun f hf => .inl (hE f hf)) ho
  | @propertyNamesAs d o tag _ _ _ _ _ iho =>
    have ho := all_of_calls (s := .propertyNamesAs d o tag) (.previous rfl) (iho hE hph)
    exact ho.expand fun r _ hr => hg.savePredicates (fun f hf => .inl (hE f hf)) hr _ _
  | @tagged o name _ _ _ _ _ _ iho =>
    have ho := all_of_calls (s := .tagged o name) (.previous rfl) (iho hE hph)
    refine ho.change fun r r' hr hmark => ?_
    cases hmark
    exact hr.mark _
  | @count o _ _ _ _ _ iho =>
    have ho := all_of_calls (s := .count o) (.previous rfl) (iho hE hph)
    exact ho.count fun n => .computed _
  | @whereAll o _ _ _ _ _ bs _ _ _ _ iho ihs =>
    have ho := all_of_calls (s := .whereAll o (bs.map Branch.step)) (.previous rfl) (iho hE hph)
    refine ho.expand fun r hmem hr => ?_
    -- the placeholder of a branch stands for the row alone, which has no error
    have hrow : (ofRows [r]).All (Row.On N) E := All.ofRows (by simpa using hr)
    have hbs (b : Branch) (hb : b ∈ bs) : (b.step.meaning sizeLimit g (ofRows [r])).All (Row.On N)
        (Raises sizeLimit g E (.whereAll o (bs.map Branch.step)) ph) :=
      all_of_calls (.condition (List.mem_map_of_mem hb) hmem) (ihs b hb hE hrow)
    exact All.join (fun b => all_of_mem_meaningEach hbs) (fun tags m => Row.On.overlay) hr
  | @optional o s _ _ _ _ _ _ _ _ iho ihb =>
    have ho := all_of_calls (s := .optional o s) (.previous rfl) (iho hE hph)
    refine ho.expand fun r hmem hr => ?_
    have hrow : (ofRows [r]).All (Row.On N) E := All.ofRows (by simpa using hr)
    have hb : (s.meaning sizeLimit g (ofRows [r])).All (Row.On N)
        (Raises sizeLimit g E (.optional o s) ph) :=
      all_of_calls (.option hmem) (ihb hE hrow)
    refine All.join (fun b hmem => ?_) (fun tags m => Row.On.overlay) hr
    obtain rfl := List.mem_singleton.1 hmem
    exact hb
  | @follow o s _ _ _ _ _ _ _ _ iho ihf =>
    have ho := iho hE hph
    refine (ihf (fun f hf => .inl (hE f hf)) ho).mono (fun _ hr => hr) fun e he => ?_
    rcases he with (he | he) | he
    · exact .inl he
    · exact .inr (.call (.previous rfl) he)
    · exact .inr (.call .fragment he)

end Step

end QuadWalk
