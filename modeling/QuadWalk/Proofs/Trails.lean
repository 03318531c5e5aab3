import QuadWalk.Proofs.Undoing

/-!
# What is known of trails

Planning reads off each plan whether its rows have something to undo, and where it cannot tell, it
says so. What it does say is so of every row, on any graph and for all anchors, whatever the rows
went through: walks leave something to undo, counts and steps back to a tag do not, and what drops,
sorts, tags or joins rows leaves their trails alone (`Plan.allows_hopState`). So a step back from
rows with a known traversal replaces each of them, and a step back that is refused would have
dropped them all (`Step.trails_of_hopState`).
-/

namespace QuadWalk

/-! ### One item for each item -/

namespace Items

variable {items : Items}

/-- Each row becomes exactly one row, in its place among the items, and each error stays. -/
def ItemForItem (f : Row → Option Row) (before after : Items) : Prop :=
  before.toList.map (Except.map f) = after.toList.map (Except.map some)

/-- What changes rows and drops none of them replaces them one by one. -/
theorem itemForItem_change {f : Row → Option Row} (h : ∀ r ∈ rows items, (f r).isSome = true) :
    ItemForItem f items (change f items) := by
  have hrow : ∀ r, .ok r ∈ items.toList → (f r).isSome = true := fun r hr => h r (mem_rows.2 hr)
  rw [ItemForItem, change, expand, LazyList.toList_flatMap]
  generalize items.toList = list at hrow ⊢
  induction list with
  | nil => rfl
  | cons item rest ih =>
    rw [List.flatMap_cons, List.map_append, List.map_cons,
      ih fun r hr => hrow r (List.mem_cons_of_mem _ hr)]
    cases item with
    | error e => rfl
    | ok r =>
      obtain ⟨r', hr'⟩ := Option.isSome_iff_exists.1 (hrow r List.mem_cons_self)
      simp [Except.map, hr']

/-- What changes rows and fails for all of them leaves no row. -/
theorem rows_change_eq_nil {f : Row → Option Row} (h : ∀ r ∈ rows items, f r = none) :
    rows (change f items) = [] := by
  rw [rows_change, List.filterMap_eq_nil_iff]
  exact h

end Items

namespace Plan

open Items

variable {g : Graph} {anchors : Anchors} {p : Plan}

theorem trail_ne_nil_of_present (h : p.hopState = .present) :
    ∀ r ∈ rows (p.items g anchors), r.trail ≠ [] := by
  intro r hr
  have hallows := allows_hopState (mem_rows.1 hr)
  rwa [h] at hallows

theorem trail_eq_nil_of_absent (h : p.hopState = .absent) :
    ∀ r ∈ rows (p.items g anchors), r.trail = [] := by
  intro r hr
  have hallows := allows_hopState (mem_rows.1 hr)
  rwa [h] at hallows

/-- Where a traversal is known, going back replaces each row. -/
theorem itemForItem_back (h : p.hopState = .present) :
    ItemForItem Row.back? (p.items g anchors) ((back p).items g anchors) := by
  rw [items]
  exact itemForItem_change fun r hr => Row.isSome_back?.2 (trail_ne_nil_of_present h r hr)

/-- Where it is known that there is none, going back leaves no row. -/
theorem rows_back_eq_nil (h : p.hopState = .absent) : rows ((back p).items g anchors) = [] := by
  rw [items]
  refine rows_change_eq_nil fun r hr => ?_
  rw [Row.back?, trail_eq_nil_of_absent h r hr]

end Plan

namespace Step

open Items

/-- **What is known of trails is so, and going back can rely on it.** On any graph and for all
anchors, the rows of a plan with a known traversal all have something to undo, and going back
replaces each item by exactly one; the rows of a plan that is known to have none have nothing to
undo, and going back leaves none of them. A step back is only ever refused where that is known, so
that what it would have been planned as has no row; where it is accepted, it is planned as that. -/
theorem trails_of_hopState :
    (∀ (p : Plan) (g : Graph) (anchors : Anchors),
      (p.hopState = .present →
        (∀ r ∈ rows (p.items g anchors), r.trail ≠ []) ∧
        ItemForItem Row.back? (p.items g anchors) ((Plan.back p).items g anchors)) ∧
      (p.hopState = .absent →
        (∀ r ∈ rows (p.items g anchors), r.trail = []) ∧
        rows ((Plan.back p).items g anchors) = [])) ∧
    ∀ (o : Step) (sizeLimit : Nat) (e : Bindings) (n k : Supply) (po : Planned),
      o.plan sizeLimit e n = .ok (po, k) →
        (∀ fault, (back o).plan sizeLimit e n = .error fault →
          ∀ (g : Graph) (anchors : Anchors),
            rows ((Plan.back po.ref.plan).items g anchors) = []) ∧
        ∀ p m, (back o).plan sizeLimit e n = .ok (p, m) → p.ref.plan = .back po.ref.plan := by
  refine ⟨fun p g anchors => ⟨fun hpresent => ?_, fun habsent => ?_⟩, ?_⟩
  · exact ⟨Plan.trail_ne_nil_of_present hpresent, Plan.itemForItem_back hpresent⟩
  · exact ⟨Plan.trail_eq_nil_of_absent habsent, Plan.rows_back_eq_nil habsent⟩
  · intro o sizeLimit e n k po hplan
    rw [plan_back hplan]
    split
    · rename_i habsent
      exact ⟨fun _ _ _ _ => Plan.rows_back_eq_nil habsent, by simp⟩
    · refine ⟨by simp, fun p m hok => ?_⟩
      cases hok
      rfl

/-- A store in which somebody who is liked knows somebody. -/
def likesWhoKnows : QuadStore :=
  .ofQuads [.ofIris "alice" "likes" "bob" "", .ofIris "bob" "knows" "carol" ""]

/-- From whoever likes, to those who are liked and know somebody. -/
def likedWhoKnows : Step :=
  .whereAll (.visit .forward (.tagged (.vertex []) "who") (.vertex [.iri "likes"]))
    [.visit .forward .placeholder (.vertex [.iri "knows"])]

/-- The plan of that. -/
def likedWhoKnowsPlan : Plan :=
  .whereAll (.hop .forward (.tag .allNodes "who") (.fixed [.iri "likes"])) 0
    [.hop .forward (.anchor 0) (.fixed [.iri "knows"])]

/-- The walk can be undone, unless the query has gone back to where it began already. -/
theorem trails_of_hopState_likedWhoKnows :
    likedWhoKnowsPlan.hopState = .present ∧
    (rows (likedWhoKnowsPlan.items likesWhoKnows.graph [])).map (·.trail) = [[.stored 0]] ∧
    ItemForItem Row.back? (likedWhoKnowsPlan.items likesWhoKnows.graph [])
      ((Plan.back likedWhoKnowsPlan).items likesWhoKnows.graph []) ∧
    (∃ p m, (back likedWhoKnows).plan 8 .root {} = .ok (p, m) ∧
      p.ref.plan = .back likedWhoKnowsPlan) ∧
    (Plan.backTo likedWhoKnowsPlan "who").hopState = .absent ∧
    (rows ((Plan.backTo likedWhoKnowsPlan "who").items likesWhoKnows.graph [])).length = 1 ∧
    (∀ r ∈ rows ((Plan.backTo likedWhoKnowsPlan "who").items likesWhoKnows.graph []),
      r.trail = []) ∧
    (back (backTo likedWhoKnows "who")).plan 8 .root {} = .error (.malformedStep .noTraversal) ∧
    rows ((Plan.back (.backTo likedWhoKnowsPlan "who")).items likesWhoKnows.graph []) = [] := by
  obtain ⟨hknown, hplanned⟩ := trails_of_hopState
  have hliked := (hknown likedWhoKnowsPlan likesWhoKnows.graph []).1 rfl
  have hstart := (hknown (.backTo likedWhoKnowsPlan "who") likesWhoKnows.graph []).2 rfl
  refine ⟨rfl, by decide +kernel, hliked.2, ⟨_, _, rfl, ?_⟩, rfl, by decide +kernel, hstart.1,
    rfl, ?_⟩
  · exact (hplanned likedWhoKnows 8 .root {} _ _ rfl).2 _ _ rfl
  · exact (hplanned (backTo likedWhoKnows "who") 8 .root {} _ _ rfl).1 _ rfl _ _

end Step

end QuadWalk
