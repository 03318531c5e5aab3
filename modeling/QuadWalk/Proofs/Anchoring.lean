import QuadWalk.Proofs.Reports

/-!
# Anchors stay in their branches

An anchor stands for the row for which a branch is run, so it only makes sense inside of that
branch. Plans are moved around while a query is planned: the plan of an origin, with the anchors in
it, becomes the placeholder of a fragment and may come to stand there several times. That no anchor
leaves its branch on the way is an invariant of planning, `Plan.Anchored`.

The idea is that bindings only ever pass on one plan, the placeholder, and that a branch gets a new
one, its anchor. So the plans inside of a branch are made of its anchor and of operators with later
anchors, and the anchors of the branches around a plan ascend from the outside in.
-/

namespace QuadWalk

namespace Plan

/-! ### Where a plan occurs -/

/-- The plans directly below an operator that are run under the same anchors. -/
def shared : Plan → List Plan
  | fixed _ | allNodes | anchor _ => []
  | hop _ p via | has _ p via _ => [p, via]
  | union p bs | intersect p bs | difference p bs => p :: bs
  | predicates _ p | save _ p _ _ | savePredicates _ p _ | isOneOf p _ | filter p _ | compare _ p _
  | back p | backTo p _ | tag p _ | whereAll p _ _ | optional p _ _ | limit p _ | skip p _
  | unique p | order p | count p => [p]

/-- The plans that an operator runs for one row of its origin, with the anchor that has the row. -/
def branches? : Plan → Option (AnchorId × List Plan)
  | whereAll _ a bs => some (a, bs)
  | optional _ a b => some (a, [b])
  | _ => none

/-- A plan occurs in another one, inside of branches with some anchors, the outermost first. -/
inductive Occurs : Plan → List AnchorId → Plan → Prop
  | here {p : Plan} : Occurs p [] p
  | outside {p q r : Plan} {path : List AnchorId} (h : q ∈ p.shared) (h' : Occurs q path r) :
      Occurs p path r
  | inside {p q r : Plan} {a : AnchorId} {bs : List Plan} {path : List AnchorId}
      (h : p.branches? = some (a, bs)) (hq : q ∈ bs) (h' : Occurs q path r) :
      Occurs p (a :: path) r

/-! ### The invariant -/

/-- Outside of its own branches, a plan has no anchor but that of the innermost branch around it.
Its operators have anchors from some number on, and their branches later ones. -/
inductive Anchored : AnchorId → Option AnchorId → Plan → Prop
  | intro {low : AnchorId} {innermost : Option AnchorId} {p : Plan}
      (anchor : ∀ i, p = .anchor i → innermost = some i)
      (shared : ∀ q ∈ p.shared, Anchored low innermost q)
      (above : ∀ a bs, p.branches? = some (a, bs) → low ≤ a)
      (branches : ∀ a bs, p.branches? = some (a, bs) → ∀ b ∈ bs, Anchored (a + 1) (some a) b) :
      Anchored low innermost p

namespace Anchored

variable {low : AnchorId} {innermost : Option AnchorId} {p r : Plan}

/-- The anchor of a branch occurs in it. -/
theorem ofAnchor (a : AnchorId) : Anchored low (some a) (.anchor a) :=
  .intro (by simp) (by simp [Plan.shared]) (by simp [branches?]) (by simp [branches?])

/-- An operator without branches. -/
theorem operator (hanchor : ∀ i, p ≠ .anchor i) (hbranches : p.branches? = none)
    (h : ∀ q ∈ p.shared, Anchored low innermost q) : Anchored low innermost p :=
  .intro (fun i hi => absurd hi (hanchor i)) h (by simp [hbranches]) (by simp [hbranches])

/-- An operator with branches, whose anchor is not too early. -/
theorem branching {a : AnchorId} {bs : List Plan} (h : p.branches? = some (a, bs)) (ha : low ≤ a)
    (hshared : ∀ q ∈ p.shared, Anchored low innermost q)
    (hbs : ∀ b ∈ bs, Anchored (a + 1) (some a) b) : Anchored low innermost p := by
  refine .intro ?_ hshared ?_ ?_
  · rintro i rfl
    simp [branches?] at h
  · intro a' bs' h'
    obtain ⟨rfl, rfl⟩ : a = a' ∧ bs = bs' := by simpa [h] using h'
    exact ha
  · intro a' bs' h'
    obtain ⟨rfl, rfl⟩ : a = a' ∧ bs = bs' := by simpa [h] using h'
    exact hbs

/-- On the way to a plan inside of another one anchors ascend. What holds of the plan on the outside
holds of that on the inside, with the last anchor on the way as the innermost. -/
theorem of_occurs {path : List AnchorId} (h : Anchored low innermost p) (ho : p.Occurs path r) :
    path.Pairwise (· < ·) ∧
      ∃ low', low ≤ low' ∧ (∀ a ∈ path, low ≤ a ∧ a < low') ∧
        Anchored low' (path.getLast?.or innermost) r := by
  induction ho generalizing low innermost with
  | here => exact ⟨.nil, low, Nat.le_refl low, by simp, h⟩
  | outside hq _ ih =>
    obtain ⟨_, hshared, _, _⟩ := h
    exact ih (hshared _ hq)
  | @inside p q r a bs path hbs hq _ ih =>
    obtain ⟨_, _, habove, hbranches⟩ := h
    have ha := habove a bs hbs
    obtain ⟨hpath, low', hlow', hbounds, hr⟩ := ih (hbranches a bs hbs q hq)
    refine ⟨List.pairwise_cons.2 ⟨fun b hb => (hbounds b hb).1, hpath⟩, low', ?_, ?_, ?_⟩
    · exact Nat.le_trans ha (Nat.le_of_succ_le hlow')
    · intro b hb
      rcases List.mem_cons.1 hb with rfl | hb
      · exact ⟨ha, hlow'⟩
      · exact ⟨Nat.le_trans ha (Nat.le_of_succ_le (hbounds b hb).1), (hbounds b hb).2⟩
    · rw [List.getLast?_cons]
      cases hlast : path.getLast? <;> simpa [hlast] using hr

end Anchored

end Plan

/-! ### Numbers are given out in ascending order -/

namespace Supply

variable {n m k : Supply}

/-- What one supply gives out next does not come after what another one does. -/
structure Before (n m : Supply) : Prop where
  anchors : n.nextAnchor ≤ m.nextAnchor
  plans : n.nextPlan ≤ m.nextPlan

theorem Before.refl (n : Supply) : n.Before n := ⟨Nat.le_refl _, Nat.le_refl _⟩

theorem Before.trans (h : n.Before k) (h' : k.Before m) : n.Before m :=
  ⟨Nat.le_trans h.anchors h'.anchors, Nat.le_trans h.plans h'.plans⟩

theorem before_afterPlan (n : Supply) : n.Before n.afterPlan := ⟨Nat.le_refl _, Nat.le_succ _⟩

theorem before_afterAnchor (n : Supply) : n.Before n.afterAnchor := ⟨Nat.le_succ _, Nat.le_refl _⟩

end Supply

namespace Step

open Supply

variable {sizeLimit : Nat} {s : Step} {e : Bindings} {n m : Supply} {p : Planned}

theorem before_of_linked {bs : List Branch} (h : Branch.Linked n bs m)
    (hbs : ∀ b ∈ bs, b.start.Before b.stop) : n.Before m ∧ ∀ b ∈ bs, n.Before b.start := by
  induction bs generalizing n with
  | nil =>
    obtain rfl : n = m := h
    exact ⟨.refl _, by simp⟩
  | cons b bs ih =>
    obtain ⟨rfl, hlinked⟩ := h
    obtain ⟨hb, hbs⟩ := List.forall_mem_cons.1 hbs
    obtain ⟨hm, hrest⟩ := ih hlinked hbs
    exact ⟨hb.trans hm, List.forall_mem_cons.2 ⟨.refl _, fun b' hb' => hb.trans (hrest b' hb')⟩⟩

theorem before_of_saveEach {d : Direction} {names : List String} {po : Planned}
    (h : Planner.saveEach d names po n = .ok (p, m)) : n.Before m :=
  Planner.saveEach_induction (P := fun _ k => n.Before k) h (.refl n)
    fun _ _ _ hk => hk.trans (before_afterPlan _)

/-- Planning gives out numbers in ascending order. -/
theorem before_of_plans (h : Plans sizeLimit s e n p m) : n.Before m := by
  induction h with
  | entities | vertex => exact before_afterPlan _
  | placeholder => exact .refl _
  | apply _ _ iho => exact iho.trans (before_afterPlan _)
  | visit _ _ iho ihs => exact (iho.trans ihs).trans (before_afterPlan _)
  | has _ _ _ iho ihs => exact (iho.trans ihs).trans (before_afterPlan _)
  | combine _ _ linked _ iho ihs =>
    exact (iho.trans (before_of_linked linked ihs).1).trans (before_afterPlan _)
  | properties _ _ saved iho => exact iho.trans (before_of_saveEach saved)
  | propertyNamesAs _ iho => exact iho.trans (before_afterPlan _)
  | tagged _ _ iho => exact iho.trans (before_afterPlan _)
  | count _ iho => exact iho.trans (before_afterPlan _)
  | whereAll _ _ linked _ iho ihs =>
    have hbranches := (before_of_linked linked ihs).1
    exact ((iho.trans (before_afterAnchor _)).trans (before_afterPlan _)).trans
      (hbranches.trans (before_afterPlan _))
  | optional _ _ iho ihb =>
    exact ((iho.trans (before_afterAnchor _)).trans (before_afterPlan _)).trans
      (ihb.trans (before_afterPlan _))
  | follow _ _ iho ihf => exact iho.trans ihf

end Step

/-! ### Planning keeps the invariant -/

namespace Step

open Plan

variable {sizeLimit : Nat} {s : Step} {e : Bindings} {n m : Supply} {p : Planned}
  {low : AnchorId} {innermost : Option AnchorId}

theorem anchored_applies {o : Step} {po : Planned} {plan : Plan} (h : Applies sizeLimit o po s plan)
    (ho : Anchored low innermost po.ref.plan) : Anchored low innermost plan := by
  cases h with
  | propertyNames =>
    have hpredicates (d : Direction) : Anchored low innermost (.predicates d po.ref.plan) :=
      .operator nofun rfl (by simpa [shared] using ho)
    exact .operator nofun rfl (by simpa [shared] using hpredicates _)
  | back | backTo | isOneOf | filter | compare | limit | skip | unique | order =>
    exact .operator nofun rfl (by simpa [shared] using ho)

theorem anchored_saveEach {d : Direction} {names : List String} {po : Planned}
    (h : Planner.saveEach d names po n = .ok (p, m)) (ho : Anchored low innermost po.ref.plan) :
    Anchored low innermost p.ref.plan :=
  Planner.saveEach_induction (P := fun q _ => Anchored low innermost q.ref.plan) h ho
    fun _ _ _ hq => .operator nofun rfl (by simpa [shared] using hq)

/-- The branches of a step keep the invariant if each of them does. -/
theorem anchored_of_mem_branches {bs : List Branch} (linked : Branch.Linked n bs m)
    (branches : ∀ b ∈ bs, Plans sizeLimit b.step e b.start b.planned b.stop)
    (hlow : low ≤ n.nextAnchor)
    (h : ∀ b ∈ bs, low ≤ b.start.nextAnchor → Anchored low innermost b.planned.ref.plan) :
    ∀ q ∈ bs.map Branch.plan, Anchored low innermost q := by
  intro q hq
  obtain ⟨b, hb, rfl⟩ := List.mem_map.1 hq
  have hstart := (before_of_linked linked fun b hb => before_of_plans (branches b hb)).2 b hb
  exact h b hb (Nat.le_trans hlow hstart.anchors)

/-- **Planning keeps anchors to their branches**: a plan made from a placeholder that keeps the
invariant keeps it, too, as long as new anchors are not too early. In a branch the placeholder is
the anchor of the branch, which keeps it with respect to this branch; a fragment has the plan of its
origin, for which it is known by then. -/
theorem anchored_of_plans (h : Plans sizeLimit s e n p m) (hlow : low ≤ n.nextAnchor)
    (hplaceholder : Anchored low innermost e.placeholder.plan) :
    Anchored low innermost p.ref.plan := by
  induction h generalizing low innermost with
  | entities => exact .operator nofun rfl (by simp [shared])
  | @vertex values =>
    rw [Supply.plan_ref]
    split <;> exact .operator nofun rfl (by simp [shared])
  | placeholder => exact hplaceholder
  | apply _ ha iho => exact anchored_applies ha (iho hlow hplaceholder)
  | visit origin _ iho ihs =>
    have hk := Nat.le_trans hlow (before_of_plans origin).anchors
    exact .operator nofun rfl (by simp [shared, iho hlow hplaceholder, ihs hk hplaceholder])
  | has _ origin _ iho ihs =>
    have hk := Nat.le_trans hlow (before_of_plans origin).anchors
    exact .operator nofun rfl (by simp [shared, iho hlow hplaceholder, ihs hk hplaceholder])
  | @combine operation _ _ _ _ _ _ _ _ origin linked branches iho ihs =>
    have hk := Nat.le_trans hlow (before_of_plans origin).anchors
    have hbs := anchored_of_mem_branches linked branches hk
      fun b hb hstart => ihs b hb hstart hplaceholder
    cases operation <;>
      exact .operator nofun rfl (List.forall_mem_cons.2 ⟨iho hlow hplaceholder, hbs⟩)
  | properties _ _ saved iho => exact anchored_saveEach saved (iho hlow hplaceholder)
  | propertyNamesAs _ iho =>
    exact .operator nofun rfl (by simpa [shared] using iho hlow hplaceholder)
  | tagged _ _ iho => exact .operator nofun rfl (by simpa [shared] using iho hlow hplaceholder)
  | count _ iho => exact .operator nofun rfl (by simpa [shared] using iho hlow hplaceholder)
  | @whereAll _ _ _ k _ _ _ _ origin linked branches iho ihs =>
    have hk := Nat.le_trans hlow (before_of_plans origin).anchors
    have hbs := anchored_of_mem_branches linked branches (Nat.le_refl (k.nextAnchor + 1))
      fun b hb hstart => ihs b hb hstart (.ofAnchor k.nextAnchor)
    exact .branching rfl hk (by simpa [shared] using iho hlow hplaceholder) hbs
  | @optional _ _ _ _ k _ _ _ origin _ iho ihb =>
    have hk := Nat.le_trans hlow (before_of_plans origin).anchors
    have hb := ihb (Nat.le_refl (k.nextAnchor + 1)) (.ofAnchor k.nextAnchor)
    exact .branching rfl hk (by simpa [shared] using iho hlow hplaceholder) (by simpa using hb)
  | follow origin _ iho ihf =>
    have hk := Nat.le_trans hlow (before_of_plans origin).anchors
    exact ihf hk (iho hlow hplaceholder)

theorem anchored_of_prepare {settings : Settings} {q : PreparedQuery}
    (h : s.prepare settings = .ok q) : Anchored 0 none q.plan := by
  obtain ⟨p, m, hp, hplan, -, -⟩ := plans_of_prepare h
  rw [hplan]
  exact anchored_of_plans hp (Nat.zero_le _) (.operator nofun rfl (by simp [Bindings.root, shared]))

/-! ### Prepared queries -/

/-- **Anchors never leave their branches**: wherever an anchor occurs in a prepared query, exactly
one of the branches around it has this anchor; no operator runs branches with the anchor of a branch
around it; and so, on any graph, no error that is seen of the query is one that planning should have
found. -/
theorem anchors_confined {s : Step} {settings : Settings} {q : PreparedQuery}
    (h : s.prepare settings = .ok q) :
    (∀ path i, q.plan.Occurs path (.anchor i) → path.count i = 1) ∧
    (∀ path r a bs, q.plan.Occurs path r → r.branches? = some (a, bs) → a ∉ path) ∧
    ∀ g e, q.Shows g e → e.isStatic = false := by
  have hplan := anchored_of_prepare h
  refine ⟨?_, ?_, ?_⟩
  · intro path i ho
    obtain ⟨hpath, _, _, _, ⟨hanchor, _, _, _⟩⟩ := hplan.of_occurs ho
    have hlast : path.getLast? = some i := by simpa using hanchor i rfl
    have hnodup : path.Nodup := hpath.imp Nat.ne_of_lt
    rw [hnodup.count, if_pos (List.mem_of_getLast? hlast)]
  · intro path r a bs ho hbs ha
    obtain ⟨_, low, _, hbounds, ⟨_, _, habove, _⟩⟩ := hplan.of_occurs ho
    exact Nat.not_lt.2 (habove a bs hbs) (hbounds a ha).2
  · intro g e he
    rcases cause_of_shows g.serves_all h he with ⟨f, -, rfl⟩ | ⟨c, _, _, _, _, v, _, _, _, _, rfl⟩
    · rfl
    · rfl

/-- A condition with an option inside of it, followed by an option that walks along the edges whose
predicate is its own row. -/
def optionInside : Step :=
  .follow (.whereAll (.vertex []) [.optional .placeholder .placeholder])
    (.optional .placeholder (.visit .forward .placeholder .placeholder))

/-- What it is prepared to: the branches inside one another have different anchors. -/
def optionInsideQuery : PreparedQuery where
  plan :=
    .optional (.whereAll .allNodes 0 [.optional (.anchor 0) 1 (.anchor 1)]) 2
      (.hop .forward (.anchor 2) (.anchor 2))
  shape := .values
  tags := []

theorem anchors_confined_optionInside :
    optionInside.prepare {} = .ok optionInsideQuery ∧
    optionInsideQuery.plan.Occurs [0, 1] (.anchor 1) ∧
    (∀ path i, optionInsideQuery.plan.Occurs path (.anchor i) → path.count i = 1) ∧
    (∀ path r a bs, optionInsideQuery.plan.Occurs path r → r.branches? = some (a, bs) → a ∉ path) ∧
    ∀ g e, optionInsideQuery.Shows g e → e.isStatic = false := by
  have hprepare : optionInside.prepare {} = .ok optionInsideQuery := rfl
  have hoccurs : optionInsideQuery.plan.Occurs [0, 1] (.anchor 1) :=
    .outside (List.mem_singleton_self _) (.inside rfl (List.mem_singleton_self _)
      (.inside rfl (List.mem_singleton_self _) .here))
  exact ⟨hprepare, hoccurs, anchors_confined hprepare⟩

end Step

end QuadWalk
