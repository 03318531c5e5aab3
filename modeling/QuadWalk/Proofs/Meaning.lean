import QuadWalk.Proofs.Planning
import QuadWalk.Query.Prepared

/-!
# What a step means

`Step.meaning` reads a step off the page, without plans, anchors or bindings: given the items for
which its placeholder stands, it says which items the step has. A placeholder is replaced by what it
stands for (lexically): the property of a traversal and the steps of a set operation share the
placeholder of the step that holds them, the steps of a condition have the one row for which they
are asked, and a fragment has the items of what it follows.

The main statement, `Step.items_eq_meaning`, is that planning and running a step gives its meaning,
item by item, errors included.

Nothing is asked of the anchors around a plan. A plan is only run under the anchors under which the
placeholder of its bindings was put together, so an anchor that is missing there yields the same
error on both sides.
-/

namespace QuadWalk

namespace Step

open Items

mutual

/-- The items of a step, given those for which its placeholder stands. An identifier or a pattern
that is refused leaves its error in place of them. -/
def meaning (sizeLimit : Nat) (g : Graph) : Step → Items → Items
  | entities ids, _ =>
    drain (ids.mapM EntityId.value) fun values => ofRows ((g.lookupAll values).map .atNode)
  | vertex values, _ =>
    ofRows ((if values.isEmpty then g.nodes else g.lookupAll values).map .atNode)
  | placeholder, ph => ph
  | visit t o property, ph =>
    drain (nodeSet? (meaning sizeLimit g property ph)) fun predicates =>
      expand (g.walk t predicates) (meaning sizeLimit g o ph)
  | back o, ph => change Row.back? (meaning sizeLimit g o ph)
  | backTo o tag, ph => change (·.backTo? tag) (meaning sizeLimit g o ph)
  | properties d o names, ph =>
    names.foldl
      (fun items name => expand (g.save d (.ofList (g.lookupAll [.iri name])) name) items)
      (meaning sizeLimit g o ph)
  | propertyNames d o, ph =>
    Items.unique (expand (g.walkToPredicates d) (meaning sizeLimit g o ph))
  | propertyNamesAs d o tag, ph => expand (g.savePredicates d tag) (meaning sizeLimit g o ph)
  | has d o property values, ph =>
    drain (nodeSet? (meaning sizeLimit g property ph)) fun predicates =>
      keep (g.reaches d predicates (.ofList (g.lookupAll values))) (meaning sizeLimit g o ph)
  | isOneOf o values, ph =>
    Items.isOneOf (.ofList (g.lookupAll values)) values (meaning sizeLimit g o ph)
  | combine .union o steps, ph =>
    distinct ((meaning sizeLimit g o ph).append fun _ => .concat (meaningEach sizeLimit g steps ph))
  | combine .intersect o steps, ph =>
    siftBy true (meaningEach sizeLimit g steps ph) fun _ => meaning sizeLimit g o ph
  | combine .difference o steps, ph =>
    siftBy false (meaningEach sizeLimit g steps ph) fun _ => meaning sizeLimit g o ph
  | filter o condition, ph =>
    drain (TextMatcher.compile condition sizeLimit) fun matcher =>
      keep (g.passes matcher) (meaning sizeLimit g o ph)
  | compare c o operand, ph => keep (g.compares c operand) (meaning sizeLimit g o ph)
  | count o, ph => Items.count (meaning sizeLimit g o ph)
  | limit o n, ph => .limit n fun _ => meaning sizeLimit g o ph
  | skip o n, ph => Items.skip n (meaning sizeLimit g o ph)
  | unique o, ph => Items.unique (meaning sizeLimit g o ph)
  | order o, ph => Items.order g (meaning sizeLimit g o ph)
  | tagged o name, ph => change (fun r => some (r.mark name)) (meaning sizeLimit g o ph)
  | whereAll o steps, ph =>
    expand (fun r => join false r (meaningEach sizeLimit g steps (ofRows [r])))
      (meaning sizeLimit g o ph)
  | optional o s, ph =>
    expand (fun r => join true r [fun _ => meaning sizeLimit g s (ofRows [r])])
      (meaning sizeLimit g o ph)
  | follow o s, ph => meaning sizeLimit g s (meaning sizeLimit g o ph)
  | select o _, ph => meaning sizeLimit g o ph
  | selectFirst o, ph => meaning sizeLimit g o ph
  | documents o, ph => meaning sizeLimit g o ph

/-- The items of each of some steps, once they are asked for. -/
def meaningEach (sizeLimit : Nat) (g : Graph) : List Step → Items → List (Unit → Items)
  | [], _ => []
  | s :: ss, ph => (fun _ => meaning sizeLimit g s ph) :: meaningEach sizeLimit g ss ph

end

variable {sizeLimit : Nat} {g : Graph}

theorem meaningEach_eq_map (ss : List Step) (ph : Items) :
    meaningEach sizeLimit g ss ph = ss.map fun s _ => s.meaning sizeLimit g ph := by
  induction ss with
  | nil => simp [meaningEach]
  | cons s ss ih => simp [meaningEach, ih]

/-! ### One rule after the other -/

/-- The operator that a step puts on its origin does to the items what the step means. -/
theorem items_applies {o s : Step} {po : Planned} {p : Plan} {ph : Items} {anchors : Anchors}
    (h : Applies sizeLimit o po s p)
    (ho : po.ref.plan.items g anchors = o.meaning sizeLimit g ph) :
    p.items g anchors = s.meaning sizeLimit g ph := by
  cases h with
  | back _ => simp [Plan.items, meaning, ho]
  | backTo _ => simp [Plan.items, meaning, ho]
  | propertyNames => simp [Plan.items, meaning, ho]
  | isOneOf _ => simp [Plan.items, meaning, ho]
  | filter hm => simp [Plan.items, meaning, ho, hm, drain]
  | compare _ => simp [Plan.items, meaning, ho]
  | limit => simp [Plan.items, meaning, ho]
  | skip => simp [Plan.items, meaning, ho]
  | unique => simp [Plan.items, meaning, ho]
  | order => simp [Plan.items, meaning, ho]

/-- Properties are bound one after the other, each to the items that the ones before it left. -/
theorem items_saveEach {d : Direction} {names : List String} {po p : Planned} {k m : Supply}
    {anchors : Anchors} (h : Planner.saveEach d names po k = .ok (p, m)) :
    p.ref.plan.items g anchors =
      names.foldl
        (fun items name => expand (g.save d (.ofList (g.lookupAll [.iri name])) name) items)
        (po.ref.plan.items g anchors) := by
  induction names generalizing po k with
  | nil =>
    simp only [Planner.saveEach, Planner.pure_eq_ok] at h
    obtain ⟨rfl, rfl⟩ := h
    rfl
  | cons name names ih =>
    simp only [Planner.saveEach, Planner.bind_eq_ok, Planner.binding_eq_ok] at h
    obtain ⟨_, _, ⟨rfl, rfl⟩, h⟩ := h
    rw [ih h, List.foldl_cons, Supply.plan_ref, Plan.items]

/-- The branches of a step mean what their steps do, if each of them does. -/
theorem itemsEach_branches {bs : List Branch} {ph : Items} {anchors : Anchors}
    (h : ∀ b ∈ bs, b.planned.ref.plan.items g anchors = b.step.meaning sizeLimit g ph) :
    Plan.itemsEach g (bs.map Branch.plan) anchors =
      meaningEach sizeLimit g (bs.map Branch.step) ph := by
  rw [Plan.itemsEach_eq_map, meaningEach_eq_map, List.map_map, List.map_map]
  refine List.map_congr_left fun b hb => ?_
  funext _
  exact h b hb

/-- **A planned step yields what it means**, its placeholder standing for what the placeholder of
the bindings yields. The induction is on the derivation; it goes through for all anchors at once
because a branch is run under one anchor more, the one that is its placeholder. -/
theorem items_of_plans {s : Step} {e : Bindings} {n m : Supply} {p : Planned}
    (h : Plans sizeLimit s e n p m) (anchors : Anchors) :
    p.ref.plan.items g anchors =
      s.meaning sizeLimit g (e.placeholder.plan.items g anchors) := by
  induction h generalizing anchors with
  | entities hv => simp [Plan.items, meaning, hv, drain]
  | @vertex values =>
    by_cases hv : values.isEmpty = true
    · simp [Plan.items, meaning, hv]
    · simp [Plan.items, meaning, hv]
  | placeholder => simp [meaning]
  | apply _ ha iho => exact items_applies ha (iho anchors)
  | visit _ _ iho ihs => simp [Plan.items, meaning, iho anchors, ihs anchors]
  | has _ _ _ iho ihs => simp [Plan.items, meaning, iho anchors, ihs anchors]
  | @combine operation _ _ _ _ _ _ _ _ _ _ _ iho ihs =>
    have hbs := itemsEach_branches fun b hb => ihs b hb anchors
    cases operation <;> simp [Plan.items, SetOperation.plan, meaning, iho anchors, hbs]
  | properties _ _ saved iho => rw [items_saveEach saved, iho anchors, meaning]
  | propertyNamesAs _ iho => simp [Plan.items, meaning, iho anchors]
  | tagged _ _ iho => simp [Plan.items, meaning, iho anchors]
  | count _ iho => simp [Plan.items, meaning, iho anchors]
  | @whereAll _ _ _ k _ _ _ _ _ _ _ iho ihs =>
    simp only [Supply.plan_ref, Plan.items, meaning, iho anchors]
    congr 1
    funext r
    -- for the row `r`, the placeholder of the branches is the anchor that has it
    rw [itemsEach_branches fun b hb => ihs b hb ((k.nextAnchor, r) :: anchors)]
    simp only [Bindings.withPlaceholder, Supply.plan_ref, Plan.items_anchor]
  | @optional _ _ _ _ k _ _ _ _ _ iho ihb =>
    simp only [Supply.plan_ref, Plan.items, meaning, iho anchors]
    congr 1
    funext r
    rw [ihb ((k.nextAnchor, r) :: anchors)]
    simp only [Bindings.withPlaceholder, Supply.plan_ref, Plan.items_anchor]
  | follow _ _ iho ihf =>
    rw [ihf anchors, meaning]
    simp only [Bindings.withPlaceholder, iho anchors]

/-- A result shape has the items of the step whose rows it reports. -/
theorem meaning_shape (s : Step) (ph : Items) :
    s.shape.1.meaning sizeLimit g ph = s.meaning sizeLimit g ph := by
  cases s <;> simp [shape, meaning]

/-- A query that is accepted means its step, the placeholder standing for all nodes. -/
theorem items_of_prepare {s : Step} {settings : Settings} {q : PreparedQuery}
    (h : s.prepare settings = .ok q) :
    q.items g = s.meaning settings.patternSizeLimit g (ofRows (g.nodes.map .atNode)) := by
  obtain ⟨p, m, hp, hq, -, -⟩ := plans_of_prepare h
  rw [PreparedQuery.items, hq, items_of_plans hp, meaning_shape]
  simp [Bindings.root, Plan.items]

/-- **Planning keeps the meaning**: whenever a step is planned, under any bindings and with any
numbers, its plan yields on every graph and under all anchors what the step means when its
placeholder stands for what the plan of the placeholder yields there; and a prepared query yields
what its step means when the placeholder stands for all nodes. -/
theorem items_eq_meaning (s : Step) :
    (∀ {sizeLimit : Nat} {e : Bindings} {n m : Supply} {p : Planned},
      s.plan sizeLimit e n = .ok (p, m) → ∀ (g : Graph) (anchors : Anchors),
        p.ref.plan.items g anchors =
          s.meaning sizeLimit g (e.placeholder.plan.items g anchors)) ∧
    ∀ {settings : Settings} {q : PreparedQuery}, s.prepare settings = .ok q → ∀ g : Graph,
      q.items g = s.meaning settings.patternSizeLimit g (ofRows (g.nodes.map .atNode)) :=
  ⟨fun h _ anchors => items_of_plans (plans_of_plan h) anchors, fun h _ => items_of_prepare h⟩

/-- A condition inside a condition, and a fragment that uses its placeholder in a property, in a
condition and in a union. -/
def nested : Step :=
  .follow
    (.whereAll (.tagged (.vertex []) "x")
      [.optional (.visit .forward .placeholder (.vertex [.iri "likes"]))
        (.follow .placeholder (.visit .backward .placeholder .placeholder)),
        .backTo .placeholder "x"])
    (.combine .union
      (.whereAll .placeholder [.visit .both (.backTo .placeholder "x") .placeholder])
      [.placeholder])

theorem items_eq_meaning_nested :
    (∃ p m, nested.plan 0 .root {} = .ok (p, m) ∧ ∀ (g : Graph) (anchors : Anchors),
      p.ref.plan.items g anchors =
        nested.meaning 0 g (Bindings.root.placeholder.plan.items g anchors)) ∧
    ∃ q, nested.prepare {} = .ok q ∧ ∀ g : Graph,
      q.items g = nested.meaning 0x100000 g (ofRows (g.nodes.map .atNode)) := by
  have hplan : (nested.plan 0 .root {}).isOk = true := by decide +kernel
  have hprepare : (nested.prepare {}).isOk = true := by decide +kernel
  obtain ⟨⟨p, m⟩, hp⟩ := exists_eq_ok_of_isOk hplan
  obtain ⟨q, hq⟩ := exists_eq_ok_of_isOk hprepare
  exact ⟨⟨p, m, hp, (items_eq_meaning nested).1 hp⟩, q, hq, (items_eq_meaning nested).2 hq⟩

end Step

end QuadWalk
