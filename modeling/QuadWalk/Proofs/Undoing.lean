import QuadWalk.Proofs.Anchoring
import QuadWalk.Proofs.Kept
import QuadWalk.Proofs.Rows
import QuadWalk.Proofs.Scope
import QuadWalk.Store.QuadStore

/-!
# Going back

A row can go back if its trail is not empty, and to a tag if it binds that; a step back drops all
other rows. Planning rules this out only in part. It refuses a step back where it knows that no row
has something to undo, and a tag that is not in scope; but of anchors, unions and steps back it
knows nothing, and a tag in scope may still be unbound. What it lets pass is decided row by row when
the plan is run.
-/

namespace QuadWalk

/-! ### One row for each row -/

namespace Items

variable {items : Items} {r : Row}

/-- Each row becomes exactly one row, in the same order. -/
def OneForOne (f : Row → Option Row) (before after : Items) : Prop :=
  (rows before).map f = (rows after).map some

theorem rows_change (f : Row → Option Row) (items : Items) :
    rows (change f items) = (rows items).filterMap f := by
  rw [rows, rows, change, expand, LazyList.toList_flatMap]
  induction items.toList with
  | nil => rfl
  | cons item rest ih =>
    rw [List.flatMap_cons, List.filterMap_append, ih]
    cases item with
    | error e => rfl
    | ok r => cases hf : f r <;> simp [Except.toOption, hf]

/-- What changes rows keeps each of them exactly if it drops none. -/
theorem oneForOne_change_iff {f : Row → Option Row} :
    OneForOne f items (change f items) ↔ ∀ r ∈ rows items, (f r).isSome = true := by
  rw [OneForOne, rows_change]
  induction rows items with
  | nil => simp
  | cons r rest ih =>
    rw [List.forall_mem_cons, ← ih]
    cases hf : f r with
    | none =>
      refine iff_of_false (fun h => ?_) (by simp)
      -- some row would be mapped to nothing
      have hnone : none ∈ (List.filterMap f (r :: rest)).map some := h ▸ by simp [hf]
      simp at hnone
    | some r' => simp [hf]

end Items

namespace Row

variable {r r' : Row} {tag : String}

theorem isSome_back? : r.back?.isSome = true ↔ r.trail ≠ [] := by
  unfold back?
  cases r.trail <;> simp

theorem isSome_backTo? : (r.backTo? tag).isSome = true ↔ tag ∈ r.tags.tags := by
  rw [TagMap.mem_tags_iff, backTo?, Option.isSome_map]

end Row

/-! ### What is known around a step -/

namespace Step

open Items Plan

/-- What is known around a step: the tags in scope, and what the traversals are of the rows for
which its placeholder stands. -/
structure Around where
  tags : List String
  trail : HopState

/-- What is known of the traversals of the rows of a step, given what is of those for which its
placeholder stands. -/
def hop : Step → HopState → HopState
  | entities _, _ | vertex _, _ | backTo _ _, _ | count _, _ => .absent
  | placeholder, outer => outer
  | visit _ _ _, _ | propertyNames _ _, _ => .present
  | back _, _ | combine .union _ _, _ => .unknown
  | properties _ o _, outer | propertyNamesAs _ o _, outer | has _ o _ _, outer
  | isOneOf o _, outer | combine .intersect o _, outer | combine .difference o _, outer
  | filter o _, outer | compare _ o _, outer | limit o _, outer | skip o _, outer
  | unique o, outer | order o, outer | tagged o _, outer | whereAll o _, outer
  | optional o _, outer | select o _, outer | selectFirst o, outer | documents o, outer =>
    hop o outer
  | follow o s, outer => hop s (hop o outer)

/-- In a step stands another one, at any depth; what is known around each of them. -/
inductive Stands : Step → Around → Step → Around → Prop
  | here {s : Step} {c : Around} : Stands s c s c
  | previous {s o t : Step} {c c' : Around} (h : s.previous? = some o) (h' : Stands o c t c') :
      Stands s c t c'
  | visited {tr : Traversal} {o property t : Step} {c c' : Around} (h : Stands property c t c') :
      Stands (.visit tr o property) c t c'
  | had {d : Direction} {o property t : Step} {values : List Value} {c c' : Around}
      (h : Stands property c t c') : Stands (.has d o property values) c t c'
  | combined {operation : SetOperation} {o b t : Step} {ss : List Step} {c c' : Around}
      (hb : b ∈ ss) (h : Stands b c t c') : Stands (.combine operation o ss) c t c'
  | condition {o b t : Step} {ss : List Step} {c c' : Around} (hb : b ∈ ss)
      (h : Stands b ⟨o.scope c.tags, .unknown⟩ t c') : Stands (.whereAll o ss) c t c'
  | option {o b t : Step} {c c' : Around} (h : Stands b ⟨o.scope c.tags, .unknown⟩ t c') :
      Stands (.optional o b) c t c'
  | fragment {o f t : Step} {c c' : Around} (h : Stands f ⟨o.scope c.tags, o.hop c.trail⟩ t c') :
      Stands (.follow o f) c t c'

variable {sizeLimit : Nat} {s o t : Step} {e : Bindings} {n m : Supply} {p : Planned}
  {c c' : Around}

/-- The bindings are what is known around a step. -/
structure Knows (e : Bindings) (c : Around) : Prop where
  tags : Binds e c.tags
  trail : e.placeholder.plan.hopState = c.trail

/-- What is known of the plan of a step can be told from the step. -/
theorem hopState_of_plans (h : Plans sizeLimit s e n p m) :
    p.ref.plan.hopState = s.hop e.placeholder.plan.hopState := by
  induction h with
  | entities => rfl
  | @vertex values =>
    rw [Supply.plan_ref]
    split <;> rfl
  | placeholder => rfl
  | apply _ ha iho => cases ha <;> first | rfl | exact iho
  | visit => rfl
  | has _ _ _ iho _ => exact iho
  | @combine operation _ _ _ _ _ _ _ _ _ _ _ iho _ =>
    cases operation with
    | union => rfl
    | intersect => exact iho
    | difference => exact iho
  | properties _ _ saved iho =>
    exact Planner.saveEach_induction (P := fun q _ => q.ref.plan.hopState = _) saved iho
      fun _ _ _ hq => hq
  | propertyNamesAs _ iho => exact iho
  | tagged _ _ iho => exact iho
  | count => rfl
  | whereAll _ _ _ _ iho _ => exact iho
  | optional _ _ iho _ => exact iho
  | follow _ _ iho ihf => exact ihf.trans (congrArg _ iho)

/-- The step on whose results a planned step acts was planned under the same bindings. -/
theorem exists_plans_of_previous (h : Plans sizeLimit s e n p m) (ho : s.previous? = some o) :
    ∃ po k, Plans sizeLimit o e n po k := by
  cases h with
  | entities | vertex | placeholder => simp [previous?] at ho
  | apply origin ha => cases ha <;> cases ho <;> exact ⟨_, _, origin⟩
  | visit origin _ => cases ho; exact ⟨_, _, origin⟩
  | has _ origin _ => cases ho; exact ⟨_, _, origin⟩
  | combine _ origin _ _ => cases ho; exact ⟨_, _, origin⟩
  | properties _ origin _ => cases ho; exact ⟨_, _, origin⟩
  | propertyNamesAs origin => cases ho; exact ⟨_, _, origin⟩
  | tagged _ origin => cases ho; exact ⟨_, _, origin⟩
  | count origin => cases ho; exact ⟨_, _, origin⟩
  | whereAll _ origin _ _ => cases ho; exact ⟨_, _, origin⟩
  | optional origin _ => cases ho; exact ⟨_, _, origin⟩
  | follow origin _ => cases ho; exact ⟨_, _, origin⟩

/-- **What stands in a planned step was planned**, knowing what is known around it. -/
theorem exists_plans_of_stands (hs : Stands s c t c') (h : Plans sizeLimit s e n p m)
    (he : Knows e c) : ∃ e' n' p' m', Plans sizeLimit t e' n' p' m' ∧ Knows e' c' := by
  induction hs generalizing e n p m with
  | here => exact ⟨e, n, p, m, h, he⟩
  | previous ho _ ih =>
    obtain ⟨po, k, origin⟩ := exists_plans_of_previous h ho
    exact ih origin he
  | visited _ ih =>
    cases h with
    | apply _ ha => cases ha
    | visit _ side => exact ih side he
  | had _ ih =>
    cases h with
    | apply _ ha => cases ha
    | has _ _ side => exact ih side he
  | combined hb _ ih =>
    cases h with
    | apply _ ha => cases ha
    | combine _ _ _ branches =>
      obtain ⟨branch, hbranch, rfl⟩ := List.mem_map.1 hb
      exact ih (branches branch hbranch) he
  | condition hb _ ih =>
    cases h with
    | apply _ ha => cases ha
    | whereAll _ origin _ branches =>
      obtain ⟨branch, hbranch, rfl⟩ := List.mem_map.1 hb
      exact ih (branches branch hbranch) ⟨contains_of_plans origin he.tags, rfl⟩
  | option _ ih =>
    cases h with
    | apply _ ha => cases ha
    | optional origin branch => exact ih branch ⟨contains_of_plans origin he.tags, rfl⟩
  | fragment _ ih =>
    cases h with
    | apply _ ha => cases ha
    | follow origin fragment =>
      exact ih fragment ⟨contains_of_plans origin he.tags,
        (hopState_of_plans origin).trans (congrArg _ he.trail)⟩

end Step

/-! ### Steps back that planning lets pass -/

namespace Plan

/-- Wherever a plan goes back, it is not known that there is nothing to undo. -/
def Undoable (p : Plan) : Prop :=
  ∀ path o, p.Occurs path (.back o) → o.hopState ≠ .absent

theorem Undoable.intro {p : Plan} (back : ∀ o, p = .back o → o.hopState ≠ .absent)
    (shared : ∀ q ∈ p.shared, Undoable q)
    (branches : ∀ a bs, p.branches? = some (a, bs) → ∀ b ∈ bs, Undoable b) : Undoable p := by
  intro path o ho
  cases ho with
  | here => exact back o rfl
  | outside hq ho => exact shared _ hq _ o ho
  | inside hbs hq ho => exact branches _ _ hbs _ hq _ o ho

/-- An operator without branches that is no step back. -/
theorem Undoable.operator {p : Plan} (hback : ∀ o, p ≠ .back o) (hbranches : p.branches? = none)
    (h : ∀ q ∈ p.shared, Undoable q) : Undoable p :=
  .intro (fun o ho => absurd ho (hback o)) h (by simp [hbranches])

end Plan

namespace Step

open Items Plan

variable {sizeLimit : Nat} {s o : Step} {e : Bindings} {n m : Supply} {p : Planned}

theorem undoable_applies {po : Planned} {q : Plan} (h : Applies sizeLimit o po s q)
    (ho : Undoable po.ref.plan) : Undoable q := by
  cases h with
  | back hstate =>
    refine .intro (fun _ heq => ?_) (by simpa [shared] using ho) (by simp [branches?])
    cases heq
    exact hstate
  | @propertyNames d =>
    have hnames : Undoable (.predicates d po.ref.plan) :=
      .operator (by simp) rfl (by simpa [shared] using ho)
    exact .operator (by simp) rfl (by simpa [shared] using hnames)
  | _ => exact .operator (by simp) rfl (by simpa [shared] using ho)

/-- **Planning refuses steps back that are known to have nothing to undo**, wherever in the plan. -/
theorem undoable_of_plans (h : Plans sizeLimit s e n p m) (he : Undoable e.placeholder.plan) :
    Undoable p.ref.plan := by
  induction h with
  | entities => exact .operator (by simp) rfl (by simp [shared])
  | @vertex values =>
    rw [Supply.plan_ref]
    split <;> exact .operator (by simp) rfl (by simp [shared])
  | placeholder => exact he
  | apply _ ha iho => exact undoable_applies ha (iho he)
  | visit _ _ iho ihs => exact .operator (by simp) rfl (by simp [shared, iho he, ihs he])
  | has _ _ _ iho ihs => exact .operator (by simp) rfl (by simp [shared, iho he, ihs he])
  | @combine operation _ _ _ _ _ _ _ _ _ _ _ iho ihs =>
    have hbs : ∀ q ∈ List.map Branch.plan _, Undoable q :=
      List.forall_mem_map.2 fun b hb => ihs b hb he
    cases operation <;>
      exact .operator (by simp [SetOperation.plan]) rfl (List.forall_mem_cons.2 ⟨iho he, hbs⟩)
  | properties _ _ saved iho =>
    refine Planner.saveEach_induction (P := fun q _ => Undoable q.ref.plan) saved (iho he)
      fun q _ name hq => ?_
    exact .operator (by simp) rfl (by simpa [shared] using hq)
  | propertyNamesAs _ iho => exact .operator (by simp) rfl (by simpa [shared] using iho he)
  | tagged _ _ iho => exact .operator (by simp) rfl (by simpa [shared] using iho he)
  | count _ iho => exact .operator (by simp) rfl (by simpa [shared] using iho he)
  | @whereAll _ _ _ k _ _ _ _ _ _ _ iho ihs =>
    have hanchor : Undoable (.anchor k.nextAnchor) := .operator (by simp) rfl (by simp [shared])
    refine .intro (by simp) (by simpa [shared] using iho he) fun a bs hbs q hq => ?_
    obtain ⟨-, rfl⟩ : k.nextAnchor = a ∧ List.map Branch.plan _ = bs := by
      simpa [branches?] using hbs
    obtain ⟨b, hb, rfl⟩ := List.mem_map.1 hq
    exact ihs b hb hanchor
  | @optional _ _ _ _ k _ _ _ _ _ iho ihb =>
    have hanchor : Undoable (.anchor k.nextAnchor) := .operator (by simp) rfl (by simp [shared])
    refine .intro (by simp) (by simpa [shared] using iho he) fun a bs hbs q hq => ?_
    obtain ⟨-, rfl⟩ : k.nextAnchor = a ∧ [_] = bs := by simpa [branches?] using hbs
    obtain rfl := List.mem_singleton.1 hq
    exact ihb hanchor
  | follow _ _ iho ihf => exact ihf (iho he)

theorem undoable_of_prepare {settings : Settings} {q : PreparedQuery}
    (h : s.prepare settings = .ok q) : Undoable q.plan := by
  obtain ⟨p, m, hp, hplan, -, -⟩ := plans_of_prepare h
  rw [hplan]
  exact undoable_of_plans hp
    (.operator (by simp [Bindings.root]) rfl (by simp [Bindings.root, shared]))

/-! ### The law of going back -/

/-- A step back, once its origin is planned, is refused or goes back from what was planned. -/
theorem plan_back {po : Planned} {k : Supply} (h : o.plan sizeLimit e n = .ok (po, k)) :
    (back o).plan sizeLimit e n =
      if po.ref.plan.hopState = .absent then .error (.malformedStep .noTraversal)
      else .ok (⟨k.ref (.back po.ref.plan), po.bindings⟩, k.afterPlan) := by
  split
  · rename_i hstate
    simp [plan, bind, StateT.bind, h, hstate, Planner.require, Planner.refuse, Planner.check,
      Except.map, Except.bind]
  · rename_i hstate
    rw [plan]
    exact Planner.bind_ok h
      (Planner.bind_ok (Planner.require_ok (by simpa using hstate)) Planner.planned_ok)

/-- It is refused exactly if it is known that there is nothing to undo. -/
theorem plan_back_eq_error {po : Planned} {k : Supply} (h : o.plan sizeLimit e n = .ok (po, k)) :
    (back o).plan sizeLimit e n = .error (.malformedStep .noTraversal) ↔
      po.ref.plan.hopState = .absent := by
  rw [plan_back h]
  split <;> simp [*]

/-- A step back to a tag is refused, once its origin is planned, exactly if the tag is not bound. -/
theorem plan_backTo_eq_error {po : Planned} {k : Supply} {tag : String}
    (h : o.plan sizeLimit e n = .ok (po, k)) :
    (backTo o tag).plan sizeLimit e n = .error (.unresolvedTag tag) ↔
      po.bindings.contains tag = false := by
  cases hc : po.bindings.contains tag with
  | true =>
    have hok : (backTo o tag).plan sizeLimit e n =
        .ok (⟨k.ref (.backTo po.ref.plan tag), po.bindings⟩, k.afterPlan) := by
      rw [plan]
      exact Planner.bind_ok h (by simpa [hc] using Planner.planned_ok)
    simp [hok]
  | false => simp [plan, bind, StateT.bind, h, hc, Planner.check, Except.map, Except.bind]

/-- **What going back does to rows.** Wherever an accepted query goes back, on any graph and for all
anchors, it yields, in order, one row for each row that has something to undo, or that binds the
tag, and drops the others; so there is one row for each row exactly if none lacks it. That is sure
where a traversal is known and where all ways bind the tag. Nowhere does an accepted query go back
where it is known that there is nothing to undo, or to a tag that is not in scope; a step back that
is refused would have dropped all rows. -/
theorem oneForOne_of_prepare {settings : Settings} {q : PreparedQuery}
    (h : s.prepare settings = .ok q) :
    (∀ path p, q.plan.Occurs path (.back p) → p.hopState ≠ .absent ∧
      ∀ (g : Graph) (anchors : Anchors),
        rows ((Plan.back p).items g anchors) = (rows (p.items g anchors)).filterMap Row.back? ∧
        (OneForOne Row.back? (p.items g anchors) ((Plan.back p).items g anchors) ↔
          ∀ r ∈ rows (p.items g anchors), r.trail ≠ []) ∧
        (p.hopState = .present →
          OneForOne Row.back? (p.items g anchors) ((Plan.back p).items g anchors))) ∧
    (∀ path p tag, q.plan.Occurs path (.backTo p tag) → ∀ (g : Graph) (anchors : Anchors),
        rows ((Plan.backTo p tag).items g anchors) =
          (rows (p.items g anchors)).filterMap (·.backTo? tag) ∧
        (OneForOne (·.backTo? tag) (p.items g anchors) ((Plan.backTo p tag).items g anchors) ↔
          ∀ r ∈ rows (p.items g anchors), tag ∈ r.tags.tags) ∧
        ∀ known, anchors.Bind tag known → p.carries tag known = true →
          OneForOne (·.backTo? tag) (p.items g anchors) ((Plan.backTo p tag).items g anchors)) ∧
    (∀ o c, Stands s.shape.1 ⟨[], .absent⟩ (.back o) c → o.hop c.trail ≠ .absent) ∧
    (∀ o tag c, Stands s.shape.1 ⟨[], .absent⟩ (.backTo o tag) c → tag ∈ o.scope c.tags) ∧
    ∀ (o : Step) (sizeLimit : Nat) (e : Bindings) (n k : Supply) (po : Planned),
      o.plan sizeLimit e n = .ok (po, k) →
        ((back o).plan sizeLimit e n = .error (.malformedStep .noTraversal) ↔
          po.ref.plan.hopState = .absent) ∧
        (po.ref.plan.hopState = .absent → ∀ (g : Graph) (anchors : Anchors),
          ∀ r ∈ rows (po.ref.plan.items g anchors), r.trail = []) ∧
        ∀ tag, (backTo o tag).plan sizeLimit e n = .error (.unresolvedTag tag) ↔
          po.bindings.contains tag = false := by
  have hback (p : Plan) (g : Graph) (anchors : Anchors) :
      OneForOne Row.back? (p.items g anchors) ((Plan.back p).items g anchors) ↔
        ∀ r ∈ rows (p.items g anchors), r.trail ≠ [] := by
    simp only [Plan.items, oneForOne_change_iff, Row.isSome_back?]
  have hbackTo (p : Plan) (tag : String) (g : Graph) (anchors : Anchors) :
      OneForOne (·.backTo? tag) (p.items g anchors) ((Plan.backTo p tag).items g anchors) ↔
        ∀ r ∈ rows (p.items g anchors), tag ∈ r.tags.tags := by
    simp only [Plan.items, oneForOne_change_iff, Row.isSome_backTo?]
  obtain ⟨p, m, hp, -, -, -⟩ := plans_of_prepare h
  have hroot : Knows .root ⟨[], .absent⟩ :=
    ⟨fun t => by simp [Bindings.contains, Bindings.find?, Bindings.root], rfl⟩
  refine ⟨?_, ?_, ?_, ?_, ?_⟩
  · intro path p hoccurs
    refine ⟨undoable_of_prepare h path p hoccurs, fun g anchors => ⟨?_, hback p g anchors, ?_⟩⟩
    · exact rows_change _ _
    · intro hpresent
      refine (hback p g anchors).2 fun r hr => ?_
      have hallows := allows_hopState (mem_rows.1 hr)
      rwa [hpresent] at hallows
  · intro path p tag _ g anchors
    refine ⟨rows_change _ _, hbackTo p tag g anchors, fun known hknown hcarries => ?_⟩
    exact (hbackTo p tag g anchors).2 fun r hr =>
      mem_tags_of_carries hcarries hknown (mem_rows.1 hr)
  · intro o c hstands
    obtain ⟨e', n', p', m', hplans, hknows⟩ := exists_plans_of_stands hstands hp hroot
    cases hplans with
    | apply origin ha =>
      cases ha with
      | back hstate => rwa [hopState_of_plans origin, hknows.trail] at hstate
  · intro o tag c hstands
    obtain ⟨e', n', p', m', hplans, hknows⟩ := exists_plans_of_stands hstands hp hroot
    cases hplans with
    | apply origin ha =>
      cases ha with
      | backTo hcontains => exact (contains_of_plans origin hknows.tags tag).1 hcontains
  · intro o sizeLimit e n k po hplan
    refine ⟨plan_back_eq_error hplan, fun habsent g anchors r hr => ?_, fun tag =>
      plan_backTo_eq_error hplan⟩
    have hallows := allows_hopState (mem_rows.1 hr)
    rwa [habsent] at hallows

/-- A walk, undone twice. -/
def undoneTwice : Step :=
  .back (.back (.visit .forward (.vertex [.iri "alice"]) (.vertex [.iri "likes"])))

/-- What it is prepared to: of the second step back nothing is known. -/
def undoneTwiceQuery : PreparedQuery where
  plan := .back (.back (.hop .forward (.fixed [.iri "alice"]) (.fixed [.iri "likes"])))
  shape := .values
  tags := []

/-- A step back to a tag that only an option binds. -/
def perhapsBound : Step :=
  .backTo (.optional (.vertex [.iri "alice"])
    (.tagged (.visit .forward .placeholder (.vertex [.iri "knows"])) "x")) "x"

/-- What it is prepared to. -/
def perhapsBoundQuery : PreparedQuery where
  plan :=
    .backTo (.optional (.fixed [.iri "alice"]) 0
      (.tag (.hop .forward (.anchor 0) (.fixed [.iri "knows"])) "x")) "x"
  shape := .values
  tags := ["x"]

/-- Accepted queries drop rows when they go back: a walk cannot be undone twice, and a tag in scope
may be unbound. -/
theorem not_oneForOne_of_prepare :
    (¬ ∀ (s : Step) (settings : Settings) (q : PreparedQuery), s.prepare settings = .ok q →
      ∀ path p, q.plan.Occurs path (.back p) → ∀ (store : QuadStore) (anchors : Anchors),
        (rows ((Plan.back p).items store.graph anchors)).length =
          (rows (p.items store.graph anchors)).length) ∧
    ¬ ∀ (s : Step) (settings : Settings) (q : PreparedQuery), s.prepare settings = .ok q →
      ∀ path p tag, q.plan.Occurs path (.backTo p tag) → ∀ (store : QuadStore) (anchors : Anchors),
        (rows ((Plan.backTo p tag).items store.graph anchors)).length =
          (rows (p.items store.graph anchors)).length := by
  constructor
  · intro h
    have hprepare : undoneTwice.prepare {} = .ok undoneTwiceQuery := rfl
    have hlength := h undoneTwice {} undoneTwiceQuery hprepare [] _ .here
      (.ofQuads [.ofIris "alice" "likes" "bob" ""]) []
    exact absurd hlength (by decide +kernel)
  · intro h
    have hprepare : perhapsBound.prepare {} = .ok perhapsBoundQuery := rfl
    have hlength := h perhapsBound {} perhapsBoundQuery hprepare [] _ _ .here
      (.ofQuads [.ofIris "alice" "likes" "bob" ""]) []
    exact absurd hlength (by decide +kernel)

/-- A walk from a tag, back to it and on again, undone once. -/
def thereAndBack : Step :=
  .back (.visit .forward
    (.backTo (.visit .forward (.tagged (.vertex []) "start") (.vertex [.iri "likes"])) "start")
    (.vertex [.iri "knows"]))

/-- What it is prepared to. -/
def thereAndBackQuery : PreparedQuery where
  plan :=
    .back (.hop .forward
      (.backTo (.hop .forward (.tag .allNodes "start") (.fixed [.iri "likes"])) "start")
      (.fixed [.iri "knows"]))
  shape := .values
  tags := ["start"]

theorem oneForOne_of_prepare_thereAndBack :
    thereAndBack.prepare {} = .ok thereAndBackQuery ∧
    (∃ path p, thereAndBackQuery.plan.Occurs path (.back p) ∧
      ∀ (g : Graph) (anchors : Anchors),
        OneForOne Row.back? (p.items g anchors) ((Plan.back p).items g anchors)) ∧
    ∃ path p, thereAndBackQuery.plan.Occurs path (.backTo p "start") ∧
      ∀ (g : Graph) (anchors : Anchors), OneForOne (·.backTo? "start") (p.items g anchors)
        ((Plan.backTo p "start").items g anchors) := by
  have hprepare : thereAndBack.prepare {} = .ok thereAndBackQuery := rfl
  obtain ⟨hback, hbackTo, -⟩ := oneForOne_of_prepare hprepare
  have hinner : thereAndBackQuery.plan.Occurs [] (.backTo
      (.hop .forward (.tag .allNodes "start") (.fixed [.iri "likes"])) "start") :=
    .outside (List.mem_singleton_self _) (.outside List.mem_cons_self .here)
  refine ⟨hprepare, ⟨[], _, .here, fun g anchors => ?_⟩, [], _, hinner, fun g anchors => ?_⟩
  · exact ((hback [] _ .here).2 g anchors).2.2 rfl
  · have hknown : anchors.Bind "start" fun _ => false := fun _ _ _ h => absurd h Bool.false_ne_true
    exact (hbackTo [] _ "start" hinner g anchors).2.2 _ hknown rfl

end Step

end QuadWalk
