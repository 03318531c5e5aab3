import QuadWalk.Proofs.Inlining

/-!
# Bindings along a chain

The chain of a step is the step itself, what it acts on, what that acts on in turn, and so on; where
a fragment is followed, the chain goes on with that of the fragment. Planning goes along the chain
and hands the bindings on. What a planned step leaves of the bindings before it (`Step.Leaves`)
depends on the counts on its chain only: all of them, with new ones in front, or none that is older
than the last count.

Whether a binding is older than a count is told from identities, which are given out in ascending
order. Conditions adopt what their branches bind, and a branch may end in a count of its own; but it
begins with the bindings of the origin, so all that it binds is from there or newer
(`Bindings.Extends`).
-/

namespace QuadWalk

/-! ### Bindings that are handed on -/

namespace Bindings

variable {e e' e'' base branch : Bindings} {id id' : Nat}

/-- Each binding is one of those before, or its plan has been made since a number was next. -/
def OldOrNew (e : Bindings) (id : Nat) (e' : Bindings) : Prop :=
  ∀ cell ∈ e'.cells, cell ∈ e.cells ∨ id ≤ cell.2.id

/-- **Bindings are handed on** if they stay, with others in front, and no plan comes in by that but
those that have been made since. -/
structure Extends (e : Bindings) (id : Nat) (e' : Bindings) : Prop where
  suffix : e.cells <:+ e'.cells
  oldOrNew : e.OldOrNew id e'

/-- To merge is to bind some tags to what the branch binds them to, one after the other. -/
theorem mergeExports_induction {P : Bindings → Prop} (hbase : P base)
    (hbind : ∀ merged t p, branch.find? t = some p → P merged → P (merged.bind t p)) :
    P (base.mergeExports branch) := by
  rw [mergeExports_eq_foldl]
  refine List.foldlRecOn (base.exported branch) _ hbase fun merged hmerged t ht => ?_
  obtain ⟨p, hfind, hadopt⟩ := adopt_of_rebinds (mem_exported_iff.1 ht)
  rw [hadopt]
  exact hbind merged t p hfind hmerged

namespace OldOrNew

theorem refl : e.OldOrNew id e := fun _ h => .inl h

theorem trans (h : e.OldOrNew id e') (h' : e'.OldOrNew id' e'') (hid : id ≤ id') :
    e.OldOrNew id e'' := by
  intro cell hcell
  rcases h' cell hcell with hold | hnew
  · exact h cell hold
  · exact .inr (Nat.le_trans hid hnew)

/-- A branch begins with another placeholder, and later. -/
theorem of_branch {q : PlanRef} (h : (e.withPlaceholder q).OldOrNew id' e') (hid : id ≤ id') :
    e.OldOrNew id e' :=
  fun cell hcell => (h cell hcell).imp_right (Nat.le_trans hid)

theorem bind {t : String} {p : PlanRef} (h : e.OldOrNew id e')
    (hp : (t, p) ∈ e.cells ∨ id ≤ p.id) : e.OldOrNew id (e'.bind t p) := by
  intro cell hcell
  rcases List.mem_cons.1 hcell with rfl | hcell
  · exact hp
  · exact h cell hcell

end OldOrNew

namespace Extends

theorem refl : e.Extends id e := ⟨List.suffix_refl _, .refl⟩

theorem trans (h : e.Extends id e') (h' : e'.Extends id' e'') (hid : id ≤ id') :
    e.Extends id e'' :=
  ⟨h.suffix.trans h'.suffix, h.oldOrNew.trans h'.oldOrNew hid⟩

theorem bind {t : String} {p : PlanRef} (h : e.Extends id e')
    (hp : (t, p) ∈ e.cells ∨ id ≤ p.id) : e.Extends id (e'.bind t p) :=
  ⟨h.suffix.trans (List.suffix_cons _ _), h.oldOrNew.bind hp⟩

/-- A plan that is made on the way is bound. -/
theorem bind_ref {t : String} {n : Supply} {q : Plan} : e.Extends n.nextPlan (e.bind t (n.ref q)) :=
  .bind .refl (.inr (Nat.le_refl _))

/-- A branch may have lost bindings that it began with, but the base has them still. -/
theorem mergeExports (h : e.Extends id base) (hbranch : e.OldOrNew id branch) :
    e.Extends id (base.mergeExports branch) :=
  mergeExports_induction h fun _ t p hfind hmerged =>
    hmerged.bind (hbranch (t, p) (TagMap.mem_of_lookup hfind))

theorem foldl_mergeExports {α : Type} {f : α → Bindings} {branches : List α}
    (h : e.Extends id base) (hbranches : ∀ b ∈ branches, e.OldOrNew id (f b)) :
    e.Extends id (branches.foldl (fun merged b => merged.mergeExports (f b)) base) :=
  List.foldlRecOn branches _ h fun _ hmerged b hb => hmerged.mergeExports (hbranches b hb)

end Extends

end Bindings

namespace Step

open Supply

variable {sizeLimit : Nat} {s o f t : Step} {e e' e'' : Bindings} {n m k : Supply} {p po : Planned}
  {c c' : PlanRef}

/-- Each property is bound to a plan of its own. -/
theorem extends_of_saveEach {d : Direction} {names : List String}
    (h : Planner.saveEach d names po n = .ok (p, m)) :
    po.bindings.Extends n.nextPlan p.bindings := by
  have hboth : po.bindings.Extends n.nextPlan p.bindings ∧ n.Before m := by
    refine Planner.saveEach_induction
      (P := fun q k => po.bindings.Extends n.nextPlan q.bindings ∧ n.Before k) h ⟨.refl, .refl n⟩ ?_
    rintro q k name ⟨hq, hk⟩
    exact ⟨hq.trans .bind_ref hk.plans, hk.trans (before_afterPlan k)⟩
  exact hboth.1

/-! ### Counts on a chain -/

/-- **The chain of a step**: the step itself, what it acts on and what that acts on in turn, and
where a fragment is followed, the chain of the fragment. -/
inductive OnChain : Step → Step → Prop
  | here {s : Step} : OnChain s s
  | origin {s o t : Step} (ho : s.previous? = some o) (h : OnChain o t) : OnChain s t
  | fragment {o f t : Step} (h : OnChain f t) : OnChain (.follow o f) t

/-- A count is on the chain of a step. -/
def Counts (s : Step) : Prop := ∃ o, OnChain s (.count o)

/-- **The last count on the chain of a step**, by the plan that it gets when the step is planned:
the step itself, or the last count before it; but a fragment comes after what it is followed from,
with the bindings and the numbers that are left there. -/
inductive LastCount (sizeLimit : Nat) : Step → Bindings → Supply → PlanRef → Prop
  | here {o : Step} {e : Bindings} {n m : Supply} {p : Planned}
      (h : (Step.count o).plan sizeLimit e n = .ok (p, m)) :
      LastCount sizeLimit (.count o) e n p.ref
  | origin {s o : Step} {e : Bindings} {n : Supply} {c : PlanRef} (ho : s.previous? = some o)
      (hcount : ∀ x, s ≠ .count x) (hlater : ∀ x f, s = .follow x f → ¬ f.Counts)
      (h : LastCount sizeLimit o e n c) : LastCount sizeLimit s e n c
  | fragment {o f : Step} {e : Bindings} {n k : Supply} {po : Planned} {c : PlanRef}
      (ho : o.plan sizeLimit e n = .ok (po, k))
      (h : LastCount sizeLimit f (po.bindings.withPlaceholder po.ref) k c) :
      LastCount sizeLimit (.follow o f) e n c

/-- The step acts on another one, whose chain is its own chain but for itself. -/
structure ActsOn (s o : Step) : Prop where
  previous : s.previous? = some o
  notCount : ∀ x, s ≠ .count x
  notFollow : ∀ x f, s ≠ .follow x f

theorem Applies.actsOn {q : Plan} (h : Applies sizeLimit o po s q) : ActsOn s o := by
  cases h <;> exact ⟨rfl, nofun, nofun⟩

theorem counts_count : (count o).Counts := ⟨o, .here⟩

theorem not_counts_of_previous (h : s.previous? = none) : ¬ s.Counts := by
  rintro ⟨x, hx⟩
  cases hx with
  | here => cases h
  | origin ho _ =>
    rw [h] at ho
    cases ho
  | fragment _ => cases h

theorem ActsOn.counts_iff (h : ActsOn s o) : s.Counts ↔ o.Counts := by
  constructor
  · rintro ⟨x, hx⟩
    cases hx with
    | here => exact absurd rfl (h.notCount x)
    | origin ho hx =>
      cases h.previous.symm.trans ho
      exact ⟨x, hx⟩
    | fragment _ => exact absurd rfl (h.notFollow _ _)
  · rintro ⟨x, hx⟩
    exact ⟨x, .origin h.previous hx⟩

theorem counts_follow_iff : (follow o f).Counts ↔ o.Counts ∨ f.Counts := by
  constructor
  · rintro ⟨x, hx⟩
    cases hx with
    | origin ho hx =>
      cases ho
      exact .inl ⟨x, hx⟩
    | fragment hx => exact .inr ⟨x, hx⟩
  · rintro (⟨x, hx⟩ | ⟨x, hx⟩)
    · exact ⟨x, .origin rfl hx⟩
    · exact ⟨x, .fragment hx⟩

theorem LastCount.counts (h : LastCount sizeLimit s e n c) : s.Counts := by
  induction h with
  | here _ => exact counts_count
  | origin ho _ _ _ ih =>
    obtain ⟨x, hx⟩ := ih
    exact ⟨x, .origin ho hx⟩
  | fragment _ _ ih => exact counts_follow_iff.2 (.inr ih)

/-- There is one last count at most. -/
theorem LastCount.unique (h : LastCount sizeLimit s e n c) (h' : LastCount sizeLimit s e n c') :
    c' = c := by
  induction h with
  | here h =>
    cases h' with
    | here h' =>
      cases h.symm.trans h'
      rfl
    | origin _ hcount _ _ => exact absurd rfl (hcount _)
  | origin ho hcount hlater _ ih =>
    cases h' with
    | here _ => exact absurd rfl (hcount _)
    | origin ho' _ _ h' =>
      cases ho.symm.trans ho'
      exact ih h'
    | fragment _ h' => exact absurd h'.counts (hlater _ _ rfl)
  | fragment ho h ih =>
    cases h' with
    | origin _ _ hlater _ => exact absurd h.counts (hlater _ _ rfl)
    | fragment ho' h' =>
      cases ho.symm.trans ho'
      exact ih h'

/-! ### What is left of the bindings -/

/-- **What a planned step leaves of the bindings before it**: all of them if there is no count on
its chain, and only what is newer than the last count if there is one. -/
inductive Leaves (sizeLimit : Nat) (s : Step) (e : Bindings) (n : Supply) (e' : Bindings)
    (m : Supply) : Prop
  | all (hs : ¬ s.Counts) (h : e.Extends n.nextPlan e')
  | newer {c : PlanRef} (hc : LastCount sizeLimit s e n c) (hn : n.nextPlan ≤ c.id)
      (hm : c.id < m.nextPlan) (h : ∀ cell ∈ e'.cells, c.id < cell.2.id)

namespace Leaves

theorem oldOrNew (h : Leaves sizeLimit s e n e' m) : e.OldOrNew n.nextPlan e' := by
  cases h with
  | all _ h => exact h.oldOrNew
  | newer _ hn _ h => exact fun cell hcell => .inr (Nat.le_trans hn (Nat.le_of_lt (h cell hcell)))

/-- What is newer than a count stays so when it is handed on. -/
theorem newer_of_extends (hc : c.id < k.nextPlan) (h : ∀ cell ∈ e'.cells, c.id < cell.2.id)
    (hext : e'.Extends k.nextPlan e'') : ∀ cell ∈ e''.cells, c.id < cell.2.id := by
  intro cell hcell
  rcases hext.oldOrNew cell hcell with hold | hnew
  · exact h cell hold
  · exact Nat.lt_of_lt_of_le hc hnew

/-- A step that hands on what its origin leaves does not count. -/
theorem handedOn (h : Leaves sizeLimit o e n e' k) (hs : ActsOn s o) (hn : n.Before k)
    (hext : e'.Extends k.nextPlan e'') (hm : k.Before m) : Leaves sizeLimit s e n e'' m := by
  cases h with
  | all ho h => exact .all (mt hs.counts_iff.1 ho) (h.trans hext hn.plans)
  | newer hc hlow hk h =>
    refine .newer (.origin hs.previous hs.notCount (fun x f hf => absurd hf (hs.notFollow x f)) hc)
      hlow (Nat.lt_of_lt_of_le hk hm.plans) (newer_of_extends hk h hext)

/-- A fragment goes on with what its origin leaves. -/
theorem followed {q : PlanRef} (ho : o.plan sizeLimit e n = .ok (po, k)) (hn : n.Before k)
    (hm : k.Before m)
    (h : Leaves sizeLimit o e n po.bindings k)
    (hf : Leaves sizeLimit f (po.bindings.withPlaceholder po.ref) k e' m) :
    Leaves sizeLimit (.follow o f) e n (e'.withPlaceholder q) m := by
  cases hf with
  | newer hc hlow hm' hf => exact .newer (.fragment ho hc) (Nat.le_trans hn.plans hlow) hm' hf
  | all hfragment hf =>
    have hext : po.bindings.Extends k.nextPlan (e'.withPlaceholder q) := ⟨hf.suffix, hf.oldOrNew⟩
    cases h with
    | all horigin h =>
      exact .all (fun hs => (counts_follow_iff.1 hs).elim horigin hfragment)
        (h.trans hext hn.plans)
    | newer hc hlow hk h =>
      refine .newer (.origin rfl nofun ?_ hc) hlow (Nat.lt_of_lt_of_le hk hm.plans)
        (newer_of_extends hk h hext)
      rintro _ _ ⟨⟩
      exact hfragment

end Leaves

/-- **Planning leaves all bindings, or those that are newer than the last count.** -/
theorem leaves_of_plans (h : Plans sizeLimit s e n p m) :
    Leaves sizeLimit s e n p.bindings m := by
  induction h with
  | entities _ => exact .all (not_counts_of_previous rfl) .refl
  | vertex => exact .all (not_counts_of_previous rfl) .refl
  | placeholder => exact .all (not_counts_of_previous rfl) .refl
  | apply origin ha iho =>
    exact iho.handedOn ha.actsOn (before_of_plans origin) .refl (before_afterPlan _)
  | visit origin side iho _ =>
    exact iho.handedOn ⟨rfl, nofun, nofun⟩ (before_of_plans origin) .refl
      ((before_of_plans side).trans (before_afterPlan _))
  | has _ origin side iho _ =>
    exact iho.handedOn ⟨rfl, nofun, nofun⟩ (before_of_plans origin) .refl
      ((before_of_plans side).trans (before_afterPlan _))
  | combine _ origin linked branches iho _ =>
    have hbranches := (before_of_linked linked fun b hb => before_of_plans (branches b hb)).1
    exact iho.handedOn ⟨rfl, nofun, nofun⟩ (before_of_plans origin) .refl
      (hbranches.trans (before_afterPlan _))
  | properties _ origin saved iho =>
    exact iho.handedOn ⟨rfl, nofun, nofun⟩ (before_of_plans origin) (extends_of_saveEach saved)
      (before_of_saveEach saved)
  | propertyNamesAs origin iho =>
    exact iho.handedOn ⟨rfl, nofun, nofun⟩ (before_of_plans origin) .bind_ref (before_afterPlan _)
  | tagged _ origin iho =>
    exact iho.handedOn ⟨rfl, nofun, nofun⟩ (before_of_plans origin) .bind_ref (before_afterPlan _)
  | count origin _ =>
    exact .newer (.here (plan_of_plans (.count origin))) (before_of_plans origin).plans
      (Nat.lt_succ_self _) nofun
  | @whereAll _ _ _ k _ po bs _ origin linked branches iho ihs =>
    obtain ⟨hlast, hstart⟩ := before_of_linked linked fun b hb => before_of_plans (branches b hb)
    have hanchor : k.Before k.afterAnchor.afterPlan :=
      (before_afterAnchor k).trans (before_afterPlan _)
    refine iho.handedOn ⟨rfl, nofun, nofun⟩ (before_of_plans origin)
      (.foldl_mergeExports .refl fun b hb => ?_) ((hanchor.trans hlast).trans (before_afterPlan _))
    exact (ihs b hb).oldOrNew.of_branch (hanchor.trans (hstart b hb)).plans
  | @optional _ _ _ _ k _ _ _ origin branch iho ihb =>
    have hanchor : k.Before k.afterAnchor.afterPlan :=
      (before_afterAnchor k).trans (before_afterPlan _)
    exact iho.handedOn ⟨rfl, nofun, nofun⟩ (before_of_plans origin)
      (.mergeExports .refl (ihb.oldOrNew.of_branch hanchor.plans))
      ((hanchor.trans (before_of_plans branch)).trans (before_afterPlan _))
  | follow origin fragment iho ihf =>
    exact .followed (plan_of_plans origin) (before_of_plans origin) (before_of_plans fragment) iho
      ihf

/-- **Every step restores the placeholder and only adds to the bindings, but for counts.** Whatever
the bindings and the numbers with which planning begins, the placeholder afterwards is the one
before. If there is no count on the chain of the step, its bindings are those before with others in
front. If there is one, there is one last count, and all bindings are newer than its plan. -/
theorem bindings_of_plan (h : s.plan sizeLimit e n = .ok (p, m)) :
    p.bindings.placeholder = e.placeholder ∧
    (¬ s.Counts → e.cells <:+ p.bindings.cells) ∧
    (s.Counts → ∃ c, (∀ c', LastCount sizeLimit s e n c' ↔ c' = c) ∧
      ∀ cell ∈ p.bindings.cells, c.id < cell.2.id) := by
  have hplans := plans_of_plan h
  refine ⟨placeholder_of_plans hplans, fun hs => ?_, fun hs => ?_⟩
  · cases leaves_of_plans hplans with
    | all _ hextends => exact hextends.suffix
    | newer hc => exact absurd hc.counts hs
  · cases leaves_of_plans hplans with
    | all hnone => exact absurd hs hnone
    | @newer c hc _ _ hnewer => exact ⟨c, fun c' => ⟨hc.unique, fun heq => heq ▸ hc⟩, hnewer⟩

/-- How many nodes there are, under a name. -/
def nodeCount : Step := .tagged (.follow (.tagged (.vertex []) "node") (.count .placeholder)) "many"

/-- The rows for which there is a count, under a name. -/
def countedEach : Step := .whereAll .placeholder [.tagged (.count .placeholder) "many"]

/-- Under bindings with a tag, a count on the chain loses that tag and the one that is bound on the
chain before it; a count in a condition loses nothing. -/
theorem bindings_of_plan_nodeCount :
    (∃ p m, nodeCount.plan 0 tagInScope { nextPlan := 2 } = .ok (p, m) ∧
      p.bindings.names = ["many"] ∧
      ∃ c, LastCount 0 nodeCount tagInScope { nextPlan := 2 } c ∧
        ∀ cell ∈ p.bindings.cells, c.id < cell.2.id) ∧
    ∃ p m, countedEach.plan 0 tagInScope { nextPlan := 2 } = .ok (p, m) ∧
      p.bindings.names = ["t", "many"] ∧ tagInScope.cells <:+ p.bindings.cells := by
  have hrun (s : Step) (names : List String)
      (h : (s.plan 0 tagInScope { nextPlan := 2 }).toOption.map (·.1.bindings.names) =
        some names) : ∃ p m, s.plan 0 tagInScope { nextPlan := 2 } = .ok (p, m) ∧
          p.bindings.names = names := by
    obtain ⟨⟨p, m⟩, hp, hnames⟩ := Option.map_eq_some_iff.1 h
    exact ⟨p, m, eq_ok_of_toOption hp, hnames⟩
  obtain ⟨p, m, hp, hnames⟩ := hrun nodeCount ["many"] (by decide +kernel)
  obtain ⟨p', m', hp', hnames'⟩ := hrun countedEach ["t", "many"] (by decide +kernel)
  have hcounts : nodeCount.Counts := ⟨_, .origin rfl (.fragment .here)⟩
  have hacts (o : Step) (ss : List Step) : ActsOn (.whereAll o ss) o := ⟨rfl, nofun, nofun⟩
  have hnone : ¬ countedEach.Counts := mt (hacts _ _).counts_iff.1 (not_counts_of_previous rfl)
  obtain ⟨-, -, hcounted⟩ := bindings_of_plan hp
  obtain ⟨c, hc, hnewer⟩ := hcounted hcounts
  obtain ⟨-, hkept, -⟩ := bindings_of_plan hp'
  exact ⟨⟨p, m, hp, hnames, c, (hc c).2 rfl, hnewer⟩, p', m', hp', hnames', hkept hnone⟩

end Step

end QuadWalk
