import QuadWalk.Proofs.Flow
import QuadWalk.Store.QuadStore

/-!
# Tags after a condition

A condition lays the tags of the first row of each branch over those of the row for which the
branches are run. A first row has two kinds of tags: those that the steps of the branch bind on the
way of its rows (`Step.bound`), and those that it has from the row where it began, if it did not
begin afresh. The second kind is laid over as well.

So the last branch that binds a tag has the last word on it only as long as no later branch began
with the row itself: such a branch puts back what the row had for the tag
(`Step.find?_of_emits`). A tag that the row did not have is out of its reach.
-/

namespace QuadWalk

namespace Step

open Items

/-! ### What the steps of a branch bind -/

mutual

/-- The tags that a step binds on the way of its rows, where that is not left open by a union or an
option. -/
def bound : Step → List String
  | entities _ | vertex _ | placeholder | count _ => []
  | visit _ o _ | back o | backTo o _ | propertyNames _ o | has _ o _ _ | isOneOf o _
  | combine _ o _ | filter o _ | compare _ o _ | limit o _ | skip o _ | unique o | order o
  | optional o _ | select o _ | selectFirst o | documents o => bound o
  | properties _ o names => bound o ++ names
  | propertyNamesAs _ o tag | tagged o tag => bound o ++ [tag]
  | whereAll o ss => bound o ++ boundEach ss
  | follow o s => (if s.startsFresh then [] else bound o) ++ bound s

/-- The tags that any of some steps binds. -/
def boundEach : List Step → List String
  | [] => []
  | s :: ss => bound s ++ boundEach ss

end

mutual

/-- Whether no union and no option is on the way of the rows of a step. -/
def isDefinite : Step → Bool
  | entities _ | vertex _ | placeholder | count _ => true
  | combine .union _ _ | optional _ _ => false
  | visit _ o _ | back o | backTo o _ | properties _ o _ | propertyNames _ o
  | propertyNamesAs _ o _ | has _ o _ _ | isOneOf o _ | combine .intersect o _
  | combine .difference o _ | filter o _ | compare _ o _ | limit o _ | skip o _ | unique o | order o
  | tagged o _ | select o _ | selectFirst o | documents o => isDefinite o
  | whereAll o ss => isDefinite o && areDefinite ss
  | follow o s => isDefinite s && (s.startsFresh || isDefinite o)

/-- Whether no union and no option is on the way of the rows of some steps. -/
def areDefinite : List Step → Bool
  | [] => true
  | s :: ss => isDefinite s && areDefinite ss

end

theorem mem_boundEach_iff {ss : List Step} {t : String} :
    t ∈ boundEach ss ↔ ∃ s ∈ ss, t ∈ s.bound := by
  induction ss with
  | nil => simp [boundEach]
  | cons s ss ih => simp [boundEach, ih]

theorem areDefinite_iff {ss : List Step} :
    areDefinite ss = true ↔ ∀ s ∈ ss, s.isDefinite = true := by
  induction ss with
  | nil => simp [areDefinite]
  | cons s ss ih => simp [areDefinite, ih]

variable {sizeLimit : Nat} {g : Graph} {s o : Step} {marks : List String}

theorem bound_of_origin (h : s.origin? = some (o, marks)) : s.bound = o.bound ++ marks := by
  revert h
  fun_cases origin? s <;> simp [bound] <;> rintro rfl rfl <;> simp

theorem isDefinite_of_origin (h : s.origin? = some (o, marks)) :
    s.isDefinite = o.isDefinite := by
  revert h
  fun_cases origin? s <;> simp [isDefinite] <;> rintro rfl - <;> rfl

/-- What the rows of a step begin with: rows for which its placeholder stands, or nothing. -/
def Begins (s : Step) (ph : Items) (r₀ : Row) : Prop :=
  if s.startsFresh then r₀.tags = .empty else .ok r₀ ∈ ph.toList

theorem begins_of_startsFresh {ph : Items} {r₀ : Row} (h : s.startsFresh = true) :
    s.Begins ph r₀ ↔ r₀.tags = .empty := by
  rw [Begins, if_pos h]

theorem begins_of_not_startsFresh {ph : Items} {r₀ : Row} (h : s.startsFresh = false) :
    s.Begins ph r₀ ↔ .ok r₀ ∈ ph.toList := by
  rw [Begins, if_neg (by simp [h])]

/-- The first rows of branches, each of which leaves the tags that it does not bind as they are in
the row for which it is run or has none of them, mark that row. -/
theorem marked_layer {r : Row} {firsts : List Row} {names : List String}
    (hbound : ∀ t ∈ names, ∃ m ∈ firsts, (m.tags.find? t).isSome = true)
    (hkept : ∀ t ∉ names, ∀ m ∈ firsts, m.tags.find? t = none ∨ m.tags.find? t = r.tags.find? t) :
    Row.Marked names r { r with tags := layer r.tags firsts } where
  bound := by
    intro t ht
    obtain ⟨m, hm, hsome⟩ := hbound t ht
    simp only [find?_layer, Option.isSome_or, Bool.or_eq_true]
    exact .inl (List.findSome?_isSome_iff.2 ⟨m, List.mem_reverse.2 hm, hsome⟩)
  kept := by
    intro t ht
    simp only [find?_layer]
    cases hf : firsts.reverse.findSome? fun m => m.tags.find? t with
    | none => simp
    | some p =>
      obtain ⟨m, hm, hp⟩ := List.exists_of_findSome?_eq_some hf
      rcases hkept t ht m (List.mem_reverse.1 hm) with hnone | hsame
      · simp [hnone] at hp
      · rw [Option.some_or, ← hsame, hp]

/-- For a tag that a branch does not bind, its rows have what the row has for which it is run, or
nothing if it begins afresh. -/
theorem find?_of_begins {r r₀ m : Row} (hb : s.Begins (ofRows [r]) r₀)
    (hm : Row.Marked s.bound r₀ m) {t : String} (ht : t ∉ s.bound) :
    m.tags.find? t = if s.startsFresh then none else r.tags.find? t := by
  rw [hm.kept t ht]
  cases hfresh : s.startsFresh with
  | true => simp [(begins_of_startsFresh hfresh).1 hb]
  | false =>
    obtain rfl := mem_ofRows_singleton.1 ((begins_of_not_startsFresh hfresh).1 hb)
    simp

/-- Joined with the first rows of branches that say where their tags come from, a row is marked with
what the branches bind. -/
theorem marked_of_branches {ss : List Step} {r : Row} {firsts : List Row}
    (h : ∀ s ∈ ss, ∀ m, .ok m ∈ (s.meaning sizeLimit g (ofRows [r])).toList →
      ∃ r₀, s.Begins (ofRows [r]) r₀ ∧ Row.Marked s.bound r₀ m)
    (hf : Firsts (meaningEach sizeLimit g ss (ofRows [r])) firsts) :
    Row.Marked (boundEach ss) r { r with tags := layer r.tags firsts } := by
  refine marked_layer (fun t ht => ?_) fun t ht m hm => ?_
  · obtain ⟨s, hs, hts⟩ := mem_boundEach_iff.1 ht
    obtain ⟨m, hm, hhead⟩ := exists_first_of_step hf hs
    obtain ⟨r₀, -, marked⟩ := h s hs m (mem_of_head? hhead)
    exact ⟨m, hm, marked.bound t hts⟩
  · obtain ⟨s, hs, hhead⟩ := exists_step_of_firsts hf hm
    obtain ⟨r₀, hbegins, marked⟩ := h s hs m (mem_of_head? hhead)
    have hts : t ∉ s.bound := fun hts => ht (mem_boundEach_iff.2 ⟨s, hs, hts⟩)
    rw [find?_of_begins hbegins marked hts]
    cases s.startsFresh with
    | true => exact .inl rfl
    | false => exact .inr rfl

/-- **Where the tags of a row come from**, without unions and options on its way: the steps on the
way bind theirs, and all others are those of the row where it began. The branches of a condition add
theirs to each row; a fragment goes on with the rows of what it follows, unless it begins afresh. -/
theorem exists_begins {s : Step} {ph : Items} {m : Row} (hd : s.isDefinite = true)
    (hm : .ok m ∈ (s.meaning sizeLimit g ph).toList) :
    ∃ r₀, s.Begins ph r₀ ∧ Row.Marked s.bound r₀ m := by
  have of_origin {o : Step} {marks : List String} (ho : s.origin? = some (o, marks)) :
      ∃ r₀, s.Begins ph r₀ ∧ Row.Marked s.bound r₀ m := by
    have := sizeOf_lt_of_origin ho
    obtain ⟨r₁, h₁, marked⟩ := exists_origin_row ho hm
    obtain ⟨r₀, h₀, marked₀⟩ := exists_begins (isDefinite_of_origin ho ▸ hd) h₁
    refine ⟨r₀, ?_, bound_of_origin ho ▸ marked₀.trans marked⟩
    rwa [Begins, startsFresh_of_origin ho]
  cases s with
  | entities ids =>
    obtain ⟨values, -, hm⟩ := mem_drain.1 hm
    exact ⟨m, (begins_of_startsFresh rfl).2 (tags_of_mem_ofRows_atNode hm), .of_tags_eq rfl⟩
  | vertex values =>
    exact ⟨m, (begins_of_startsFresh rfl).2 (tags_of_mem_ofRows_atNode hm), .of_tags_eq rfl⟩
  | placeholder => exact ⟨m, (begins_of_not_startsFresh rfl).2 hm, .of_tags_eq rfl⟩
  | count o =>
    obtain ⟨n, rfl⟩ := eq_of_mem_count hm
    exact ⟨_, (begins_of_startsFresh rfl).2 rfl, .of_tags_eq rfl⟩
  | combine operation o ss =>
    cases operation with
    | union => simp [isDefinite] at hd
    | intersect => exact of_origin rfl
    | difference => exact of_origin rfl
  | whereAll o ss =>
    obtain ⟨hdo, hds⟩ : o.isDefinite = true ∧ ∀ s ∈ ss, s.isDefinite = true := by
      simpa [isDefinite, areDefinite_iff] using hd
    obtain ⟨r₁, rows, h₁, hj, hr⟩ := mem_expand.1 hm
    obtain ⟨firsts, hf, rfl⟩ := (mem_join hj hr).resolve_right (by simp)
    obtain ⟨r₀, h₀, marked₀⟩ := exists_begins hdo h₁
    refine ⟨r₀, h₀, marked₀.trans ?_⟩
    refine marked_of_branches (fun s hs m hm => ?_) hf
    have := List.sizeOf_lt_of_mem hs
    exact exists_begins (hds s hs) hm
  | optional o b => simp [isDefinite] at hd
  | follow o s =>
    obtain ⟨hds, hdo⟩ : s.isDefinite = true ∧ (s.startsFresh = true ∨ o.isDefinite = true) := by
      simpa [isDefinite] using hd
    obtain ⟨r₁, h₁, marked₁⟩ := exists_begins hds hm
    cases hfresh : s.startsFresh with
    | true =>
      rw [begins_of_startsFresh hfresh] at h₁
      refine ⟨r₁, (begins_of_startsFresh (by simp [startsFresh, hfresh])).2 h₁, ?_⟩
      simpa [bound, hfresh] using marked₁
    | false =>
      rw [begins_of_not_startsFresh hfresh] at h₁
      obtain ⟨r₀, h₀, marked₀⟩ := exists_begins (hdo.resolve_left (by simp [hfresh])) h₁
      refine ⟨r₀, ?_, ?_⟩
      · rwa [Begins, startsFresh, hfresh, Bool.false_or]
      · simpa [bound, hfresh] using marked₀.trans marked₁
  | _ => exact of_origin rfl
termination_by sizeOf s

/-! ### The last branch that binds a tag -/

/-- What branches that do not bind a tag put over it: what the row had, if one of them began with
the row. -/
theorem findSome?_of_firsts {ss : List Step} {r : Row} {firsts : List Row} {t : String}
    (hd : ∀ s ∈ ss, s.isDefinite = true) (ht : ∀ s ∈ ss, t ∉ s.bound)
    (hf : Firsts (meaningEach sizeLimit g ss (ofRows [r])) firsts) :
    (firsts.reverse.findSome? fun m => m.tags.find? t) =
      if ∀ s ∈ ss, s.startsFresh = true then none else r.tags.find? t := by
  have found (s : Step) (hs : s ∈ ss) (m : Row)
      (hhead : (s.meaning sizeLimit g (ofRows [r])).head? = some (.ok m)) :
      m.tags.find? t = if s.startsFresh then none else r.tags.find? t := by
    obtain ⟨r₀, hbegins, marked⟩ := exists_begins (hd s hs) (mem_of_head? hhead)
    exact find?_of_begins hbegins marked (ht s hs)
  have of_first (m : Row) (hm : m ∈ firsts) :
      ∃ s ∈ ss, m.tags.find? t = if s.startsFresh then none else r.tags.find? t := by
    obtain ⟨s, hs, hhead⟩ := exists_step_of_firsts hf hm
    exact ⟨s, hs, found s hs m hhead⟩
  split
  · rename_i hfresh
    refine List.findSome?_eq_none_iff.2 fun m hm => ?_
    obtain ⟨s, hs, heq⟩ := of_first m (List.mem_reverse.1 hm)
    rw [heq, if_pos (hfresh s hs)]
  · rename_i hnot
    cases hsome : firsts.reverse.findSome? fun m => m.tags.find? t with
    | none =>
      -- the branch that began with the row has what the row had, so that is nothing
      obtain ⟨s, hs, hs'⟩ : ∃ s ∈ ss, ¬ s.startsFresh = true := by simpa using hnot
      obtain ⟨m, hm, hhead⟩ := exists_first_of_step hf hs
      rw [← List.findSome?_eq_none_iff.1 hsome m (List.mem_reverse.2 hm), found s hs m hhead,
        if_neg hs']
    | some p =>
      obtain ⟨m, hm, hp⟩ := List.exists_of_findSome?_eq_some hsome
      obtain ⟨s, hs, heq⟩ := of_first m (List.mem_reverse.1 hm)
      rw [heq] at hp
      split at hp
      · simp at hp
      · exact hp.symm

/-- What a join binds a tag to: what the last branch that binds it says, unless a later one puts
back what the row had. -/
theorem find?_layer_of_last {before after : List Step} {s : Step} {r : Row} {firsts : List Row}
    {t : String} (hd : ∀ s' ∈ before ++ s :: after, s'.isDefinite = true) (hs : t ∈ s.bound)
    (ht : ∀ s' ∈ after, t ∉ s'.bound)
    (hf : Firsts (meaningEach sizeLimit g (before ++ s :: after) (ofRows [r])) firsts) :
    ∃ m, (s.meaning sizeLimit g (ofRows [r])).head? = some (.ok m) ∧
      (m.tags.find? t).isSome = true ∧
      (layer r.tags firsts).find? t =
        if ∀ s' ∈ after, s'.startsFresh = true then m.tags.find? t
        else (r.tags.find? t).or (m.tags.find? t) := by
  rw [meaningEach_eq_map, List.map_append, List.map_cons, ← meaningEach_eq_map] at hf
  obtain ⟨ms, _, rfl, -, hf⟩ := firsts_append_iff.1 hf
  obtain ⟨m, ns, rfl, hm, hns⟩ := firsts_cons_iff.1 hf
  rw [← meaningEach_eq_map] at hns
  obtain ⟨r₀, -, marked⟩ := exists_begins (hd s (by simp)) (mem_of_head? hm)
  obtain ⟨p, hp⟩ := Option.isSome_iff_exists.1 (marked.bound t hs)
  have hafter := findSome?_of_firsts (fun s' hs' => hd s' (by simp [hs'])) ht hns
  refine ⟨m, hm, marked.bound t hs, ?_⟩
  rw [layer_append, find?_layer, List.reverse_cons, List.findSome?_append, hafter]
  split <;> simp [hp]

/-! ### Planned conditions -/

/-- How a condition was planned: its origin, and its steps under bindings whose placeholder is the
anchor. -/
structure ConditionPlan (sizeLimit : Nat) (o : Step) (ss : List Step) (e : Bindings)
    (plan : Plan) where
  origin : Planned
  anchor : PlanRef
  id : AnchorId
  branches : List Branch
  anchor_plan : anchor.plan = .anchor id
  branches_step : branches.map Branch.step = ss
  plan_eq : plan = .whereAll origin.ref.plan id (branches.map Branch.plan)
  plans_origin : ∃ n m, Plans sizeLimit o e n origin m
  plans_branch : ∀ b ∈ branches,
    Plans sizeLimit b.step (origin.bindings.withPlaceholder anchor) b.start b.planned b.stop

/-- A condition that is planned has such a plan. -/
theorem exists_conditionPlan {ss : List Step} {e : Bindings} {n m : Supply} {p : Planned}
    (h : (whereAll o ss).plan sizeLimit e n = .ok (p, m)) :
    Nonempty (ConditionPlan sizeLimit o ss e p.ref.plan) := by
  cases plans_of_plan h with
  | apply _ ha => cases ha
  | whereAll _ ho _ hbs => exact ⟨⟨_, _, _, _, rfl, rfl, rfl, ⟨_, _, ho⟩, hbs⟩⟩

namespace ConditionPlan

variable {ss : List Step} {e : Bindings} {plan : Plan}

/-- The rows that are emitted for a row of the origin. -/
def Emits (c : ConditionPlan sizeLimit o ss e plan) (g : Graph) (anchors : Anchors)
    (r r' : Row) : Prop :=
  ∃ rows, r' ∈ rows ∧
    join false r (Plan.itemsEach g (c.branches.map Branch.plan) ((c.id, r) :: anchors)) = .ok rows

/-- The first row of a branch that is run for a row. -/
def IsFirst (c : ConditionPlan sizeLimit o ss e plan) (g : Graph) (anchors : Anchors) (r : Row)
    (b : Branch) (first : Row) : Prop :=
  (b.plan.items g ((c.id, r) :: anchors)).head? = some (.ok first)

/-- A branch is the last one that binds a tag; given are those after it. -/
def LastToBind (c : ConditionPlan sizeLimit o ss e plan) (t : String) (b : Branch)
    (after : List Branch) : Prop :=
  (∃ before, c.branches = before ++ b :: after) ∧ t ∈ b.step.bound ∧
    ∀ b' ∈ after, t ∉ b'.step.bound

/-- The rows of a condition are those that are emitted for the rows of its origin. -/
theorem mem_items_iff (c : ConditionPlan sizeLimit o ss e plan) (anchors : Anchors) (r' : Row) :
    .ok r' ∈ (plan.items g anchors).toList ↔
      ∃ r, .ok r ∈ (c.origin.ref.plan.items g anchors).toList ∧ c.Emits g anchors r r' := by
  have hitems := congrArg (fun plan => plan.items g anchors) c.plan_eq
  simp only [Plan.items] at hitems
  rw [hitems, mem_expand]
  constructor
  · rintro ⟨r, rows, hr, hj, hr'⟩
    exact ⟨r, hr, rows, hr', hj⟩
  · rintro ⟨r, hr, rows, hr', hj⟩
    exact ⟨r, rows, hr, hj, hr'⟩

/-- A branch that is run for a row has the items that its step means there. -/
theorem items_branch (c : ConditionPlan sizeLimit o ss e plan) (anchors : Anchors) (r : Row)
    {b : Branch} (hb : b ∈ c.branches) :
    b.plan.items g ((c.id, r) :: anchors) = b.step.meaning sizeLimit g (ofRows [r]) := by
  rw [Branch.plan, items_of_plans (c.plans_branch b hb)]
  simp only [Bindings.withPlaceholder, c.anchor_plan, Plan.items_anchor]

theorem itemsEach_branches (c : ConditionPlan sizeLimit o ss e plan) (anchors : Anchors)
    (r : Row) :
    Plan.itemsEach g (c.branches.map Branch.plan) ((c.id, r) :: anchors) =
      meaningEach sizeLimit g (c.branches.map Branch.step) (ofRows [r]) :=
  Step.itemsEach_branches fun _ hb => c.items_branch anchors r hb

/-- An emitted row is the row with the tags of the first rows over its own. -/
theorem exists_firsts (c : ConditionPlan sizeLimit o ss e plan) {anchors : Anchors} {r r' : Row}
    (h : c.Emits g anchors r r') :
    ∃ firsts, Firsts (meaningEach sizeLimit g (c.branches.map Branch.step) (ofRows [r])) firsts ∧
      r' = { r with tags := layer r.tags firsts } := by
  obtain ⟨rows, hr', hj⟩ := h
  rw [c.itemsEach_branches] at hj
  exact (mem_join hj hr').resolve_right (by simp)

end ConditionPlan

/-- **The last branch that binds a tag has the last word, unless a later one begins with the row.**
Let a condition be planned whose steps have no union and no option on the way of their rows. Its
rows are those that are emitted for the rows of its origin, at their places and with their trails.
A tag that no branch binds stays as it was. If some branch is the last to bind a tag, it has a first
row that binds the tag, and the emitted row has its binding exactly if the row of the origin had none
or the same one, or all later branches begin afresh; otherwise it has that of the row of the origin.
-/
theorem find?_of_emits {ss : List Step} (hd : ∀ s ∈ ss, s.isDefinite = true) {e : Bindings}
    {n m : Supply} {p : Planned} (h : (whereAll o ss).plan sizeLimit e n = .ok (p, m)) :
    ∃ c : ConditionPlan sizeLimit o ss e p.ref.plan, ∀ (g : Graph) (anchors : Anchors),
      (∀ r', .ok r' ∈ (p.ref.plan.items g anchors).toList ↔
        ∃ r, .ok r ∈ (c.origin.ref.plan.items g anchors).toList ∧ c.Emits g anchors r r') ∧
      ∀ r r', c.Emits g anchors r r' →
        (r'.position = r.position ∧ r'.trail = r.trail) ∧
        (∀ t, (∀ b ∈ c.branches, t ∉ b.step.bound) → r'.tags.find? t = r.tags.find? t) ∧
        ∀ t b after, c.LastToBind t b after →
          ∃ first, c.IsFirst g anchors r b first ∧ (first.tags.find? t).isSome = true ∧
            (r'.tags.find? t = first.tags.find? t ↔
              r.tags.find? t = none ∨ r.tags.find? t = first.tags.find? t ∨
                ∀ b' ∈ after, b'.step.startsFresh = true) ∧
            (r'.tags.find? t ≠ first.tags.find? t → r'.tags.find? t = r.tags.find? t) := by
  obtain ⟨c⟩ := exists_conditionPlan h
  refine ⟨c, fun g anchors => ⟨c.mem_items_iff anchors, fun r r' hemits => ?_⟩⟩
  obtain ⟨firsts, hf, rfl⟩ := c.exists_firsts hemits
  have hdc : ∀ s ∈ c.branches.map Branch.step, s.isDefinite = true :=
    fun s hs => hd s (c.branches_step ▸ hs)
  refine ⟨⟨rfl, rfl⟩, fun t ht => ?_, fun t b after hlast => ?_⟩
  · have marked := marked_of_branches (fun s hs m hm => exists_begins (hdc s hs) hm) hf
    refine marked.kept t fun hb => ?_
    obtain ⟨s, hs, hts⟩ := mem_boundEach_iff.1 hb
    obtain ⟨b, hb, rfl⟩ := List.mem_map.1 hs
    exact ht b hb hts
  · obtain ⟨⟨before, hbranches⟩, htb, hafter⟩ := hlast
    have hmem : b ∈ c.branches := by simp [hbranches]
    rw [hbranches, List.map_append, List.map_cons] at hf hdc
    have hafter' : ∀ s ∈ after.map Branch.step, t ∉ s.bound := by simpa using hafter
    obtain ⟨first, hfirst, hsome, hfind⟩ := find?_layer_of_last hdc htb hafter' hf
    refine ⟨first, ?_, hsome, ?_⟩
    · rw [ConditionPlan.IsFirst, c.items_branch anchors r hmem]
      exact hfirst
    · rw [hfind]
      by_cases hfresh : ∀ b' ∈ after, b'.step.startsFresh = true
      · rw [if_pos (by simpa using hfresh)]
        exact ⟨⟨fun _ => .inr (.inr hfresh), fun _ => rfl⟩, fun hne => absurd rfl hne⟩
      · rw [if_neg (by simpa using hfresh)]
        cases hr : r.tags.find? t with
        | none => simp
        | some q => simp [hfresh]

/-- A row with a tag for a condition. -/
def aliceAsX : Step := .tagged (.vertex [.iri "alice"]) "x"

/-- A branch that binds the tag anew. -/
def likesAsX : Step := .tagged (.visit .forward .placeholder (.vertex [.iri "likes"])) "x"

/-- A branch that begins with the row and does not bind the tag. -/
def knows : Step := .visit .forward .placeholder (.vertex [.iri "knows"])

theorem find?_of_emits_rebinding :
    ∃ p m, (whereAll aliceAsX [knows, likesAsX]).plan 0 .root {} = .ok (p, m) ∧
      ∃ (c : ConditionPlan 0 aliceAsX [knows, likesAsX] .root p.ref.plan) (b : Branch),
        c.LastToBind "x" b [] ∧
          ∀ (g : Graph) (anchors : Anchors) (r r' : Row), c.Emits g anchors r r' →
            ∃ first, c.IsFirst g anchors r b first ∧
              r'.tags.find? "x" = first.tags.find? "x" := by
  have hplan : ((whereAll aliceAsX [knows, likesAsX]).plan 0 .root {}).isOk = true := by
    decide +kernel
  obtain ⟨⟨p, m⟩, hp⟩ := exists_eq_ok_of_isOk hplan
  obtain ⟨c, hc⟩ := find?_of_emits (by decide) hp
  obtain ⟨b₁, _, hbs, -, hrest⟩ := List.map_eq_cons_iff.1 c.branches_step
  obtain ⟨b₂, _, rfl, hb₂, hnil⟩ := List.map_eq_cons_iff.1 hrest
  obtain rfl := List.map_eq_nil_iff.1 hnil
  have hlast : c.LastToBind "x" b₂ [] := ⟨⟨[b₁], hbs⟩, by rw [hb₂]; decide, by simp⟩
  refine ⟨p, m, hp, c, b₂, hlast, fun g anchors r r' hemits => ?_⟩
  obtain ⟨first, hfirst, -, hiff, -⟩ := ((hc g anchors).2 r r' hemits).2.2 "x" b₂ [] hlast
  exact ⟨first, hfirst, hiff.2 (.inr (.inr (by simp)))⟩

/-- A store with one edge of each of two properties. -/
def acquaintances : QuadStore :=
  .ofQuads [.ofIris "alice" "likes" "bob" "", .ofIris "alice" "knows" "dan" ""]

/-- With the branches the other way round, the tag is bound to what it was before: the last branch,
which does not bind it, undoes what the first one did. -/
theorem find?_of_emits_undone :
    (∀ s ∈ [likesAsX, knows], s.isDefinite = true) ∧
    ∃ p m, (whereAll aliceAsX [likesAsX, knows]).plan 0 .root {} = .ok (p, m) ∧
      ∃ (c : ConditionPlan 0 aliceAsX [likesAsX, knows] .root p.ref.plan) (r r' first : Row)
          (b : Branch) (after : List Branch),
        .ok r ∈ (c.origin.ref.plan.items acquaintances.graph []).toList ∧
        c.Emits acquaintances.graph [] r r' ∧ c.LastToBind "x" b after ∧
        c.IsFirst acquaintances.graph [] r b first ∧
        first.tags.find? "x" = (acquaintances.graph.lookup (.iri "bob")).map .stored ∧
        r'.tags.find? "x" = (acquaintances.graph.lookup (.iri "alice")).map .stored ∧
        r'.tags.find? "x" ≠ first.tags.find? "x" := by
  have hplan : ((whereAll aliceAsX [likesAsX, knows]).plan 0 .root {}).isOk = true := by
    decide +kernel
  obtain ⟨⟨p, m⟩, hp⟩ := exists_eq_ok_of_isOk hplan
  obtain ⟨c⟩ := exists_conditionPlan hp
  obtain ⟨b₁, _, hbs, hb₁, hrest⟩ := List.map_eq_cons_iff.1 c.branches_step
  obtain ⟨b₂, _, rfl, hb₂, hnil⟩ := List.map_eq_cons_iff.1 hrest
  obtain rfl := List.map_eq_nil_iff.1 hnil
  -- the row of the origin, and the first row of the first branch
  let r : Row := (Row.atNode 0).mark "x"
  let first : Row := ((Row.atNode 0).moveTo 2).mark "x"
  have hids : acquaintances.graph.lookupAll [.iri "alice"] = [0] := by decide +kernel
  have hjoin : (join false r (meaningEach 0 acquaintances.graph [likesAsX, knows]
      (ofRows [r]))).toOption = some [r] := by
    decide +kernel
  have hfirst : (likesAsX.meaning 0 acquaintances.graph (ofRows [r])).head?.map Except.toOption =
      some (some first) := by
    decide +kernel
  have hlast : c.LastToBind "x" b₁ [b₂] :=
    ⟨⟨[], hbs⟩, by rw [hb₁]; decide, by rw [List.forall_mem_singleton, hb₂]; decide⟩
  refine ⟨by decide, p, m, hp, c, r, r, first, b₁, [b₂], ?_, ⟨[r], by simp, ?_⟩, hlast, ?_, ?_⟩
  · obtain ⟨n, k, horigin⟩ := c.plans_origin
    rw [items_of_plans horigin]
    exact mem_change.2 ⟨.atNode 0, mem_ofRows.2 (by simp [hids]), rfl⟩
  · rw [c.itemsEach_branches, c.branches_step]
    exact eq_ok_of_toOption hjoin
  · obtain ⟨item, hitem, hok⟩ := Option.map_eq_some_iff.1 hfirst
    rw [ConditionPlan.IsFirst, c.items_branch [] r (by simp [hbs]), hb₁, hitem,
      eq_ok_of_toOption hok]
  · decide +kernel

end Step

end QuadWalk
