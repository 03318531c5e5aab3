import QuadWalk.Proofs.Closed
import QuadWalk.Proofs.Joins
import QuadWalk.Proofs.Membership

/-!
# Testing for an edge is a semi-join

`Has` keeps a row if an edge leads from it to one of some values. A condition can ask for the same:
its branch walks along these edges and keeps what is one of the values (`Step.semijoin`). The two
have different plans, a filter over the neighbours of each row here, a join with an anchor there.
They are equal nevertheless, item by item, whatever the rows are and whatever the store answers, as
long as the property can be worked out and does not look at its placeholder
(`Step.has_eq_semijoin`).

Both are needed. The property of `Has` is worked out once, before any row, and its placeholder is
that of the surroundings; in the condition it is worked out for each row, with that row for its
placeholder. So an error of the property comes before all rows in one and in place of each row in
the other.
-/

namespace QuadWalk

/-- The walk in one direction. -/
def Direction.traversal : Direction → Traversal
  | .forward => .forward
  | .backward => .backward

theorem Direction.directions_traversal (d : Direction) : d.traversal.directions = [d] := by
  cases d <;> rfl

namespace Graph

/-- The far ends of the edges at a row whose predicate is in a set. -/
def ends (g : Graph) (d : Direction) (predicates : NodeSet) (r : Row) :
    Except QueryError (List NodeId) :=
  match r.position.node? with
  | none => .ok []
  | some id => ofStore (g.neighbors id predicates d)

variable (g : Graph) (d : Direction) (predicates targets : NodeSet) (r : Row)

/-- A walk in one direction leads to the far ends. -/
theorem walk_traversal :
    g.walk d.traversal predicates r = (g.ends d predicates r).map fun ids => ids.map r.moveTo := by
  unfold walk ends
  rw [Direction.directions_traversal]
  cases r.position.node? with
  | none => rfl
  | some id =>
    simp only [List.mapM_cons, List.mapM_nil]
    cases ofStore (g.neighbors id predicates d) with
    | error e => rfl
    | ok ids => simp [bind, Except.bind, pure, Except.pure, Except.map]

/-- A row reaches some nodes if one of the far ends is among them. -/
theorem reaches_eq_map_ends :
    g.reaches d predicates targets r = (g.ends d predicates r).map fun ids => ids.any targets := by
  unfold reaches ends
  cases r.position.node? <;> rfl

end Graph

namespace Bindings

/-- A branch that binds the same tags by the same plans exports nothing. -/
theorem mergeExports_of_cells_eq {base branch : Bindings} (h : branch.cells = base.cells) :
    base.mergeExports branch = base :=
  mergeExports_eq_self fun t _ => by rw [boundTo, boundTo, find?, find?, h]

end Bindings

namespace Items

variable (g : Graph) (d : Direction) (predicates targets : NodeSet) (values : List Value) (r : Row)

/-- The walks from a row that end at some nodes. -/
theorem toList_isOneOf_walk :
    (isOneOf targets values (expand (g.walk d.traversal predicates) (ofRows [r]))).toList =
      match g.ends d predicates r with
      | .ok ids => ((ids.filter targets).map r.moveTo).map .ok
      | .error e => [.error e] := by
  rw [isOneOf, toList_keep_ok, expand, LazyList.toList_flatMap, toList_ofRows, List.map_singleton,
    List.flatMap_singleton]
  simp only [Graph.walk_traversal]
  cases g.ends d predicates r with
  | error e => rfl
  | ok ids =>
    simp only [Except.map, List.filter_map]
    rfl

/-- **A row is joined with its walks to some nodes exactly if it reaches one of them**, and the join
leaves it as it is. -/
theorem join_walk :
    join false r
        [fun _ => isOneOf targets values (expand (g.walk d.traversal predicates) (ofRows [r]))] =
      (g.reaches d predicates targets r).map fun found => if found then [r] else [] := by
  rw [join, joinTags, ← LazyList.head?_toList, toList_isOneOf_walk, Graph.reaches_eq_map_ends]
  cases g.ends d predicates r with
  | error e => rfl
  | ok ids =>
    cases hfound : ids.filter targets with
    | nil =>
      have hnone : ids.any targets = false := by simpa using hfound
      simp only [hfound, Except.map, hnone]
      rfl
    | cons id rest =>
      have hmem : id ∈ ids.filter targets := by simp [hfound]
      have hsome : ids.any targets = true := List.any_eq_true.2 ⟨id, List.mem_filter.1 hmem⟩
      -- a walk keeps the tags of the row
      simp only [hfound, List.map_cons, List.head?_cons, joinTags, Row.moveTo,
        TagMap.overlay_self, Except.map, hsome]
      rfl

end Items

namespace Step

open Items Planner

/-- Keeps what has an edge to one of the given values, as a condition. -/
def semijoin (d : Direction) (o property : Step) (values : List Value) : Step :=
  .whereAll o [.isOneOf (.visit d.traversal .placeholder property) values]

variable {sizeLimit : Nat} {g : Graph} {d : Direction} {o property : Step} {values : List Value}
  {e : Bindings} {n k m : Supply} {p po : Planned} {ph : Items}

/-- If its property does not look at the placeholder and can be worked out, a test for an edge means
the same as a semi-join. -/
theorem meaning_semijoin {found : List Row} (hclosed : property.isClosed = true)
    (hfound : (property.meaning sizeLimit g ph).Lists found) :
    (semijoin d o property values).meaning sizeLimit g ph =
      (has d o property values).meaning sizeLimit g ph := by
  obtain ⟨predicates, hpredicates⟩ := exists_nodeSet?_eq_ok hfound
  have hbranch (r : Row) :
      nodeSet? (property.meaning sizeLimit g (ofRows [r])) = .ok predicates := by
    rw [meaning_eq_of_isClosed hclosed _ ph, hpredicates]
  simp only [semijoin, meaning, meaningEach, hpredicates, hbranch, drain]
  rw [keep]
  congr 1
  funext r
  exact join_walk g d predicates _ values r

/-! ### Planning -/

theorem has_plan_eq_ok :
    (has d o property values).plan sizeLimit e n = .ok (p, m) ↔ values ≠ [] ∧ ∃ po k via l,
      o.plan sizeLimit e n = .ok (po, k) ∧ property.plan sizeLimit e k = .ok (via, l) ∧
      p = ⟨l.ref (.has d po.ref.plan via.ref.plan values), po.bindings⟩ ∧ m = l.afterPlan := by
  simp only [plan, bind_eq_ok, require_eq_ok, planned_eq_ok]
  constructor
  · rintro ⟨_, _, ⟨hvalues, rfl⟩, po, k, ho, via, l, hvia, rfl, rfl⟩
    exact ⟨by simpa using hvalues, po, k, via, l, ho, hvia, rfl, rfl⟩
  · rintro ⟨hvalues, po, k, via, l, ho, hvia, rfl, rfl⟩
    exact ⟨(), n, ⟨by simpa using hvalues, rfl⟩, po, k, ho, via, l, hvia, rfl, rfl⟩

/-- The branch of a semi-join binds nothing, so the bindings after it are those of its origin. -/
theorem semijoin_plan_eq_ok :
    (semijoin d o property values).plan sizeLimit e n = .ok (p, m) ↔ values ≠ [] ∧ ∃ po k via l,
      o.plan sizeLimit e n = .ok (po, k) ∧
      property.plan sizeLimit
        (po.bindings.withPlaceholder (k.afterAnchor.ref (.anchor k.nextAnchor)))
        k.afterAnchor.afterPlan = .ok (via, l) ∧
      p = ⟨l.afterPlan.afterPlan.ref (.whereAll po.ref.plan k.nextAnchor
          [.isOneOf (.hop d.traversal (.anchor k.nextAnchor) via.ref.plan) values]),
        po.bindings⟩ ∧
      m = l.afterPlan.afterPlan.afterPlan := by
  have hexported (e : Bindings) (r : PlanRef) : e.mergeExports (e.withPlaceholder r) = e :=
    Bindings.mergeExports_of_cells_eq rfl
  simp only [semijoin, plan, planEach, bind_eq_ok, require_eq_ok, newAnchor_eq_ok, identify_eq_ok,
    planned_eq_ok, pure_eq_ok]
  constructor
  · rintro ⟨_, _, ⟨-, rfl⟩, po, k, ho, _, _, ⟨rfl, rfl⟩, _, _, ⟨rfl, rfl⟩, _, _,
      ⟨_, _, ⟨_, _, ⟨hvalues, rfl⟩, _, _, ⟨_, _, ⟨rfl, rfl⟩, via, l, hvia, rfl, rfl⟩, rfl, rfl⟩,
        _, _, ⟨rfl, rfl⟩, rfl, rfl⟩, rfl, rfl⟩
    refine ⟨by simpa using hvalues, po, k, via, l, ho, hvia, ?_, rfl⟩
    simp only [List.foldl_cons, List.foldl_nil, hexported]
    rfl
  · rintro ⟨hvalues, po, k, via, l, ho, hvia, rfl, rfl⟩
    refine ⟨(), n, ⟨rfl, rfl⟩, po, k, ho, _, _, ⟨rfl, rfl⟩, _, _, ⟨rfl, rfl⟩, _, _,
      ⟨_, _, ⟨(), _, ⟨by simpa using hvalues, rfl⟩, _, _,
        ⟨_, _, ⟨rfl, rfl⟩, via, l, hvia, rfl, rfl⟩, rfl, rfl⟩, _, _, ⟨rfl, rfl⟩, rfl, rfl⟩, ?_, rfl⟩
    simp only [List.foldl_cons, List.foldl_nil, hexported]
    rfl

/-- A planned test for an edge and a planned semi-join have the same bindings and, wherever the
property can be worked out, the same items. -/
theorem semijoin_of_has {p' : Planned} {m' : Supply} (hclosed : property.isClosed = true)
    (h : (has d o property values).plan sizeLimit e n = .ok (p, m))
    (h' : (semijoin d o property values).plan sizeLimit e n = .ok (p', m')) :
    p'.bindings = p.bindings ∧ ∀ k l via, property.plan sizeLimit e k = .ok (via, l) →
      ∀ (g : Graph) (anchors : Anchors) (found : List Row),
        (via.ref.plan.items g anchors).Lists found →
          p'.ref.plan.items g anchors = p.ref.plan.items g anchors := by
  constructor
  · obtain ⟨-, po, k, via, l, ho, -, rfl, -⟩ := has_plan_eq_ok.1 h
    obtain ⟨-, po', k', via', l', ho', -, rfl, -⟩ := semijoin_plan_eq_ok.1 h'
    cases ho.symm.trans ho'
    rfl
  · intro k l via hvia g anchors found hfound
    rw [items_of_plans (plans_of_plan hvia)] at hfound
    rw [items_of_plans (plans_of_plan h'), items_of_plans (plans_of_plan h),
      meaning_semijoin hclosed hfound]

/-- Where a test for an edge is planned, so is a semi-join, unless the tags around it get lost on
the way to it. -/
theorem succeeds_semijoin_of_has (hclosed : property.isClosed = true)
    (h : (has d o property values).plan sizeLimit e n = .ok (p, m))
    (htags : ∀ t, e.contains t = true → p.bindings.contains t = true) :
    Succeeds ((semijoin d o property values).plan sizeLimit e) n := by
  obtain ⟨hvalues, po, k, via, l, ho, hvia, rfl, -⟩ := has_plan_eq_ok.1 h
  obtain ⟨via', l', hvia'⟩ : Succeeds (property.plan sizeLimit
      (po.bindings.withPlaceholder (k.afterAnchor.ref (.anchor k.nextAnchor))))
      k.afterAnchor.afterPlan :=
    succeeds_plan_of_wider ⟨via, l, hvia⟩ htags (.inl hclosed)
  exact ⟨_, _, semijoin_plan_eq_ok.2 ⟨hvalues, po, k, via', l', ho, hvia', rfl, rfl⟩⟩

/-- **A test for an edge is a semi-join**, in either direction, for any property that does not look
at its placeholder. Of an accepted origin and an accepted property, and of at least one value, both
queries are accepted; they list the tags of the origin, and have the same items on every graph on
which the property can be worked out: the same rows in the same order, with their places, tags and
trails, and the same errors. The same holds under any bindings, wherever both are planned; and the
semi-join is planned wherever the test is, if the tags in scope around it are still in scope after
the origin. -/
theorem has_eq_semijoin (d : Direction) (o : Step) {property : Step} (values : List Value)
    (hclosed : property.isClosed = true) :
    (∀ {settings : Settings} {q via : PreparedQuery}, o.prepare settings = .ok q →
      q.shape = .values → property.prepare settings = .ok via → via.shape = .values →
      values ≠ [] →
        ∃ test semi, (has d o property values).prepare settings = .ok test ∧
          (semijoin d o property values).prepare settings = .ok semi ∧
          test.shape = .values ∧ semi.shape = .values ∧ test.tags = q.tags ∧ semi.tags = q.tags ∧
          ∀ (g : Graph) (found : List Row), (via.items g).Lists found →
            semi.items g = test.items g) ∧
    ∀ {sizeLimit : Nat} {e : Bindings} {n m : Supply} {p : Planned},
      (has d o property values).plan sizeLimit e n = .ok (p, m) →
        (∀ p' m', (semijoin d o property values).plan sizeLimit e n = .ok (p', m') →
          p'.bindings = p.bindings ∧ ∀ k l via, property.plan sizeLimit e k = .ok (via, l) →
            ∀ (g : Graph) (anchors : Anchors) (found : List Row),
              (via.ref.plan.items g anchors).Lists found →
                p'.ref.plan.items g anchors = p.ref.plan.items g anchors) ∧
        ((∀ t, e.contains t = true → p.bindings.contains t = true) →
          Succeeds ((semijoin d o property values).plan sizeLimit e) n) := by
  refine ⟨fun {settings q via} hq hqshape hvia hviashape hvalues => ?_, fun h =>
    ⟨fun p' m' h' => semijoin_of_has hclosed h h', succeeds_semijoin_of_has hclosed h⟩⟩
  obtain ⟨po, k, ho, -, rfl⟩ := prepare_eq_ok_iff.1 hq
  obtain ⟨pv, l, hproperty, -, rfl⟩ := prepare_eq_ok_iff.1 hvia
  rw [shape_of_values hqshape] at ho
  rw [shape_of_values hviashape] at hproperty
  -- the property is planned after the origin, with other numbers
  obtain ⟨via', l', hvia'⟩ : Succeeds (property.plan settings.patternSizeLimit .root) k :=
    succeeds_plan_of_wider ⟨pv, l, hproperty⟩ (fun _ ht => ht) (.inl hclosed)
  obtain ⟨p, m, hhas, hbindings⟩ :
      ∃ p m, (has d o property values).plan settings.patternSizeLimit .root {} = .ok (p, m) ∧
        p.bindings = po.bindings :=
    ⟨_, _, has_plan_eq_ok.2 ⟨hvalues, po, k, via', l', ho, hvia', rfl, rfl⟩, rfl⟩
  have hroot (t : String) : Bindings.root.contains t = true → p.bindings.contains t = true :=
    fun ht => by simp [Bindings.contains, Bindings.find?, Bindings.root] at ht
  obtain ⟨p', m', hsemi⟩ := succeeds_semijoin_of_has hclosed hhas hroot
  obtain ⟨hbindings', hitems⟩ := semijoin_of_has hclosed hhas hsemi
  refine ⟨_, _, prepare_eq_ok_iff.2 ⟨p, m, hhas, rfl, rfl⟩,
    prepare_eq_ok_iff.2 ⟨p', m', hsemi, rfl, rfl⟩, rfl, rfl, by rw [hbindings],
    by rw [hbindings', hbindings], fun g found hfound => ?_⟩
  rw [PreparedQuery.items, shape_of_values hviashape] at hfound
  exact hitems {} l pv hproperty g [] found hfound

/-- A store that says which predicates are good. -/
def goodLikes : QuadStore := .ofQuads [.ofIris "alice" "likes" "bob" "",
  .ofIris "alice" "hates" "carol" "", .ofIris "likes" "is" "good" ""]

/-- The good predicates. The placeholder in the condition is not free. -/
def good : Step :=
  .whereAll (.vertex []) [.has .forward .placeholder (.vertex [.iri "is"]) [.iri "good"]]

/-- What Alice is to by a good predicate, as a test for an edge and as a semi-join: Bob. -/
theorem has_eq_semijoin_good :
    (∃ test semi,
      (has .backward (.vertex []) good [.iri "alice"]).prepare {} = .ok test ∧
      (semijoin .backward (.vertex []) good [.iri "alice"]).prepare {} = .ok semi ∧
      semi.tags = test.tags ∧ (test.items goodLikes.graph).Lists [.atNode 2] ∧
      (semi.items goodLikes.graph).Lists [.atNode 2]) ∧
    ∃ p m, (has .backward (.vertex []) good [.iri "alice"]).plan 0 .root {} = .ok (p, m) ∧
      Succeeds ((semijoin .backward (.vertex []) good [.iri "alice"]).plan 0 .root) {} := by
  have hclosed : good.isClosed = true := rfl
  obtain ⟨hprepare, hplan⟩ := has_eq_semijoin .backward (.vertex []) [.iri "alice"] hclosed
  constructor
  · have horigin : ((vertex []).prepare {}).isOk = true := by decide +kernel
    have hproperty : (good.prepare {}).isOk = true := by decide +kernel
    obtain ⟨q, hq⟩ := exists_eq_ok_of_isOk horigin
    obtain ⟨via, hvia⟩ := exists_eq_ok_of_isOk hproperty
    obtain ⟨-, -, -, -, hqshape, -⟩ := plans_of_prepare hq
    obtain ⟨-, -, -, -, hviashape, -⟩ := plans_of_prepare hvia
    obtain ⟨test, semi, htest, hsemi, -, -, htags, htags', hitems⟩ :=
      hprepare hq hqshape hvia hviashape (by simp)
    have hfound : (via.items goodLikes.graph).Lists [.atNode 1] := by
      rw [items_of_prepare hvia]
      exact eq_map_ok_of_toOption (by decide +kernel)
    have hrows : (test.items goodLikes.graph).Lists [.atNode 2] := by
      rw [items_of_prepare htest]
      exact eq_map_ok_of_toOption (by decide +kernel)
    refine ⟨test, semi, htest, hsemi, htags'.trans htags.symm, hrows, ?_⟩
    rw [hitems _ _ hfound]
    exact hrows
  · have hok : ((has .backward (.vertex []) good [.iri "alice"]).plan 0 .root {}).isOk = true := by
      decide +kernel
    obtain ⟨⟨p, m⟩, hp⟩ := exists_eq_ok_of_isOk hok
    exact ⟨p, m, hp, (hplan hp).2 fun t ht => by
      simp [Bindings.contains, Bindings.find?, Bindings.root] at ht⟩

end Step

end QuadWalk
