import QuadWalk.Proofs.Agreement
import QuadWalk.Proofs.Reachable

/-!
# Items that grow

Two runs of one query, the second one with more data, meet more and more rows. Items grow to others
if each of their rows is among the others again, with its place and its tags (`Items.Grows`). Trails
are left out: of rows with one place and the same tags a union keeps whichever comes first.

More rows alone are not enough to go on with. A traversal first asks another plan for predicates,
and if that fails, then there are no rows at all; so no error may appear where there was none. An
error is what a row leads to whose place is a number without a node. That is why the relation also
says where the rows of the second run are: on nodes, from which walks never fail, or else nowhere on
nodes, and among the rows of the first run already.

For each operator that only looks for rows that are there, one lemma says that it keeps the
relation.
-/

namespace QuadWalk

variable {N : NodeId → Prop}

/-! ### Rows off the nodes -/

namespace Row

/-- All places of a row are numbers that are not in a set. -/
def Stray (N : NodeId → Prop) (r : Row) : Prop := r.Within fun p => ¬ p.On N

/-- A row is on nodes of a set, or it is stray and has the place and the tags of one of some rows.
-/
def Settled (N : NodeId → Prop) (rows : List Row) (r : Row) : Prop :=
  r.On N ∨ r.Stray N ∧ ∃ r₀ ∈ rows, Items.rowKey r₀ = Items.rowKey r

variable {r r' : Row} {rows rows' : List Row}

theorem Settled.mono (h : r.Settled N rows)
    (hrows : ∀ r₀ ∈ rows, ∃ r₁ ∈ rows', Items.rowKey r₁ = Items.rowKey r₀) :
    r.Settled N rows' := by
  rcases h with h | ⟨hstray, r₀, hr₀, hkey⟩
  · exact .inl h
  · obtain ⟨r₁, hr₁, hkey'⟩ := hrows r₀ hr₀
    exact .inr ⟨hstray, r₁, hr₁, hkey'.trans hkey⟩

theorem Settled.of_subset (h : r.Settled N rows) (hrows : ∀ r₀ ∈ rows, r₀ ∈ rows') :
    r.Settled N rows' :=
  h.mono fun r₀ hr₀ => ⟨r₀, hrows r₀ hr₀, rfl⟩

/-- A stray row is where no row on nodes of the set is. -/
theorem Stray.not_on (h : r'.Stray N) (hkey : Items.rowKey r = Items.rowKey r') :
    ¬ r.position.On N := by
  have hposition : r.position = r'.position := congrArg Prod.fst hkey
  rw [hposition]
  exact h.position

end Row

namespace Items

/-- Each row has one with its place and its tags among the other items. If there is no error among
the items, there is none among the others, whose rows are settled. -/
structure Grows (N : NodeId → Prop) (items items' : Items) : Prop where
  rows : ∀ r, .ok r ∈ items.toList → ∃ r', .ok r' ∈ items'.toList ∧ rowKey r' = rowKey r
  sound : ∀ rows, Lists items rows → items'.All (Row.Settled N rows) fun _ => False

variable {items items' : Items}

namespace Grows

/-! ### Rows at nodes -/

theorem atNode {is js : List NodeId} (hmem : ∀ i ∈ is, i ∈ js) (hnode : ∀ j ∈ js, N j ∨ j ∈ is) :
    Grows N (ofRows (is.map .atNode)) (ofRows (js.map .atNode)) where
  rows := by
    intro r hr
    obtain ⟨i, hi, rfl⟩ := List.mem_map.1 (mem_ofRows.1 hr)
    exact ⟨.atNode i, mem_ofRows.2 (List.mem_map_of_mem (hmem i hi)), rfl⟩
  sound := by
    intro rows hrows
    obtain rfl := lists_ofRows_iff.1 hrows
    refine .ofRows fun r hr => ?_
    obtain ⟨j, hj, rfl⟩ := List.mem_map.1 hr
    by_cases hN : N j
    · exact .inl (.atNode hN)
    · have hold : j ∈ is := (hnode j hj).resolve_left hN
      have hstray : ¬ (Position.stored j).On N := fun h => hN (Position.on_stored.1 h)
      exact .inr ⟨.atNode hstray, .atNode j, List.mem_map_of_mem hold, rfl⟩

/-! ### One row after the other -/

section Expand

variable {f f' : Row → Except QueryError (List Row)} (h : Grows N items items')
  (hmono : ∀ r r' rs x, rowKey r' = rowKey r → f r = .ok rs → x ∈ rs →
    ∃ rs', f' r' = .ok rs' ∧ ∃ x' ∈ rs', rowKey x' = rowKey x)
  (hon : ∀ r, r.On N → Yields (fun rs => ∀ x ∈ rs, x.On N) (fun _ => False) (f' r))

include h hmono hon

/-- What rows are replaced by grows, if more replaces what is at one place, rows on nodes are
replaced by such, and stray ones by what replaced them before. -/
theorem expand (hstray : ∀ r r' rs, r'.Stray N → rowKey r = rowKey r' → f r = .ok rs →
      Yields (fun rs' => ∀ x ∈ rs', x.Settled N rs) (fun _ => False) (f' r')) :
    Grows N (expand f items) (expand f' items') where
  rows := by
    intro x hx
    obtain ⟨r, rs, hr, hrs, hx⟩ := mem_expand.1 hx
    obtain ⟨r', hr', hkey⟩ := h.rows r hr
    obtain ⟨rs', hrs', x', hx', hkey'⟩ := hmono r r' rs x hkey hrs hx
    exact ⟨x', mem_expand.2 ⟨r', rs', hr', hrs', hx'⟩, hkey'⟩
  sound := by
    intro rows hrows
    obtain ⟨origin, horigin, hok, rfl⟩ := exists_of_lists_expand hrows
    refine (h.sound origin horigin).expand fun r' _ hsettled => ?_
    rcases hsettled with hr' | ⟨hr', r, hr, hkey⟩
    · exact (hon r' hr').mono (fun _ hrs x hx => .inl (hrs x hx)) fun _ he => he
    · obtain ⟨rs, hrs⟩ := hok r hr
      refine (hstray r r' rs hr' hkey hrs).mono (fun _ hrs' x hx => ?_) fun _ he => he
      refine (hrs' x hx).of_subset fun r₀ hr₀ => List.mem_flatMap.2 ⟨r, hr, ?_⟩
      rw [hrs]
      exact hr₀

/-- Walks succeed only at nodes, so no stray row is walked from. -/
theorem expand_of_node (hnode : ∀ r rs, f r = .ok rs → r.position.On N) :
    Grows N (Items.expand f items) (Items.expand f' items') :=
  h.expand hmono hon fun r _ rs hr' hkey hrs => absurd (hnode r rs hrs) (hr'.not_on hkey)

end Expand

theorem keep {test test' : Row → Except QueryError Bool} (h : Grows N items items')
    (hmono : ∀ r r', rowKey r' = rowKey r → test r = .ok true → test' r' = .ok true)
    (hon : ∀ r, r.On N → Yields (fun _ => True) (fun _ => False) (test' r))
    (hstray : ∀ r r' b, r'.Stray N → rowKey r = rowKey r' → test r = .ok b → test' r' = .ok b) :
    Grows N (keep test items) (keep test' items') := by
  refine h.expand (fun r r' rs x hkey hrs hx => ?_) (fun r hr => ?_) fun r r' rs hr' hkey hrs => ?_
  · obtain ⟨b, hb, rfl⟩ := map_ok_iff.1 hrs
    cases b with
    | false => simp at hx
    | true =>
      obtain rfl : x = r := by simpa using hx
      exact ⟨[r'], map_ok_iff.2 ⟨true, hmono x r' hkey hb, rfl⟩, r', List.mem_singleton_self r',
        hkey⟩
  · refine (hon r hr).map fun b _ x hx => ?_
    cases b with
    | false => simp at hx
    | true =>
      obtain rfl : x = r := by simpa using hx
      exact hr
  · obtain ⟨b, hb, rfl⟩ := map_ok_iff.1 hrs
    rw [hstray r r' b hr' hkey hb]
    intro x hx
    cases b with
    | false => simp at hx
    | true =>
      obtain rfl : x = r' := by simpa using hx
      exact .inr ⟨hr', r, List.mem_singleton_self r, hkey⟩

/-- Rows are changed by what changes rows with one place and the same tags alike, and leads to no
other places. -/
theorem change {f : Row → Option Row} (h : Grows N items items')
    (hkey : ∀ r r' x, rowKey r' = rowKey r → f r = some x →
      ∃ x', f r' = some x' ∧ rowKey x' = rowKey x)
    (hplaces : ∀ {P : Position → Prop} {r x : Row}, r.Within P → f r = some x → x.Within P) :
    Grows N (change f items) (change f items') := by
  refine h.expand (fun r r' rs x hk hrs hx => ?_) (fun r hr x hx => ?_)
    fun r r' rs hr' hk hrs x hx => ?_
  · cases hrs
    obtain ⟨x', hx', hkx⟩ := hkey r r' x hk (by simpa using hx)
    exact ⟨_, rfl, x', by simpa using hx', hkx⟩
  · exact Row.On.iff_within.2 (hplaces (Row.On.iff_within.1 hr) (by simpa using hx))
  · cases hrs
    have hx : f r' = some x := by simpa using hx
    obtain ⟨x₀, hx₀, hkx⟩ := hkey r' r x hk hx
    exact .inr ⟨hplaces hr' hx, x₀, by simpa using hx₀, hkx⟩

theorem mark (h : Grows N items items') (tag : String) :
    Grows N (Items.change (fun r => some (r.mark tag)) items)
      (Items.change (fun r => some (r.mark tag)) items') := by
  refine h.change (fun r r' x hkey hx => ?_) fun hr hx => ?_
  · cases hx
    obtain ⟨hposition, htags⟩ := Prod.mk.inj hkey
    exact ⟨_, rfl, by simp only [rowKey, Row.mark, hposition, htags]⟩
  · cases hx
    exact hr.mark tag

theorem backTo (h : Grows N items items') (tag : String) :
    Grows N (Items.change (·.backTo? tag) items) (Items.change (·.backTo? tag) items') := by
  refine h.change (fun r r' x hkey hx => ?_) fun hr hx => hr.backTo? hx
  obtain ⟨-, htags⟩ := Prod.mk.inj hkey
  obtain ⟨p, hp, rfl⟩ := Option.map_eq_some_iff.1 hx
  refine ⟨_, Option.map_eq_some_iff.2 ⟨p, htags ▸ hp, rfl⟩, ?_⟩
  simp only [rowKey, htags]

/-- Rows at one of some values: a set of nodes may grow by nodes. -/
theorem isOneOf {ps qs : NodeSet} (h : Grows N items items') (hmono : ∀ i, ps i → qs i)
    (hnode : ∀ i, qs i → N i ∨ ps i) (values : List Value) :
    Grows N (isOneOf ps values items) (isOneOf qs values items') := by
  refine h.keep (fun r r' hkey ht => ?_) (fun r hr => trivial) fun r r' b hr' hkey hb => ?_
  · obtain ⟨hposition, -⟩ := Prod.mk.inj hkey
    rw [Except.ok.injEq] at ht ⊢
    rw [hposition]
    cases hp : r.position with
    | stored i =>
      rw [hp] at ht
      exact hmono i ht
    | computed v =>
      rw [hp] at ht
      exact ht
  · obtain ⟨hposition, -⟩ := Prod.mk.inj hkey
    have hoff := hr'.not_on hkey
    rw [← hb, ← hposition]
    cases hp : r.position with
    | stored i =>
      rw [hp, Position.on_stored] at hoff
      refine congrArg Except.ok (Bool.eq_iff_iff.2 ⟨fun hq => ?_, hmono i⟩)
      exact (hnode i hq).resolve_left hoff
    | computed v => rfl

/-! ### All rows first -/

theorem drain {α : Type} {p p' : Except QueryError α} {f f' : α → Items}
    (h : ∀ a, p = .ok a → ∃ a', p' = .ok a' ∧ Grows N (f a) (f' a')) :
    Grows N (drain p f) (drain p' f') := by
  cases p with
  | error e =>
    constructor
    · intro r hr
      simp [Items.drain] at hr
    · intro rows hrows
      exact absurd hrows not_lists_error
  | ok a =>
    obtain ⟨a', rfl, hgrows⟩ := h a rfl
    exact hgrows

/-- If there are rows without an error, then there are more of them, without an error. -/
theorem exists_rows (h : Grows N items items') {rows : List Row} (hrows : Lists items rows) :
    ∃ rows', Lists items' rows' ∧ (∀ r ∈ rows, ∃ r' ∈ rows', rowKey r' = rowKey r) ∧
      ∀ r' ∈ rows', r'.Settled N rows := by
  have hsound := h.sound rows hrows
  obtain ⟨rows', hrows'⟩ := exists_lists fun e he => hsound _ he
  refine ⟨rows', hrows', fun r hr => ?_, fun r' hr' => hsound _ (hrows'.mem_iff.2 hr')⟩
  obtain ⟨r', hr', hkey⟩ := h.rows r (hrows.mem_iff.2 hr)
  exact ⟨r', hrows'.mem_iff.1 hr', hkey⟩

/-- The nodes of rows grow. -/
theorem nodeSet? (h : Grows N items items') {ps : NodeSet} (hps : nodeSet? items = .ok ps) :
    ∃ qs, Items.nodeSet? items' = .ok qs ∧ ∀ i, ps i → qs i := by
  obtain ⟨rows, hrows, rfl⟩ := map_ok_iff.1 hps
  obtain ⟨rows', hrows', hmem, -⟩ := h.exists_rows (rows?_eq_ok.1 hrows)
  refine ⟨_, map_ok_iff.2 ⟨rows', rows?_eq_ok.2 hrows', rfl⟩, fun i hi => ?_⟩
  simp only [NodeSet.ofList, List.contains_iff_mem, List.mem_filterMap] at hi ⊢
  obtain ⟨r, hr, hnode⟩ := hi
  obtain ⟨r', hr', hkey⟩ := hmem r hr
  obtain ⟨hposition, -⟩ := Prod.mk.inj hkey
  exact ⟨r', hr', hposition ▸ hnode⟩

end Grows

/-- A set of places has those of another, and no more off the nodes. -/
structure PlacesGrow (N : NodeId → Prop) (ps qs : Std.HashSet Position) : Prop where
  mono : ∀ p, ps.contains p = true → qs.contains p = true
  stray : ∀ p, ¬ p.On N → qs.contains p = true → ps.contains p = true

section Sets

variable {sets sets' : List (Std.HashSet Position)}

theorem PlacesGrow.all_mono (h : List.Forall₂ (PlacesGrow N) sets sets') {p : Position}
    (hp : sets.all (·.contains p) = true) : sets'.all (·.contains p) = true := by
  induction h with
  | nil => rfl
  | cons hset _ ih =>
    rw [List.all_cons, Bool.and_eq_true] at hp ⊢
    exact ⟨hset.mono p hp.1, ih hp.2⟩

theorem PlacesGrow.all_eq (h : List.Forall₂ (PlacesGrow N) sets sets') {p : Position}
    (hp : ¬ p.On N) : sets'.all (·.contains p) = sets.all (·.contains p) := by
  induction h with
  | nil => rfl
  | cons hset _ ih =>
    rw [List.all_cons, List.all_cons, ih, Bool.eq_iff_iff.2 ⟨hset.stray p hp, hset.mono p⟩]

end Sets

namespace Grows

theorem positions? (h : Grows N items items') {ps : Std.HashSet Position}
    (hps : positions? items = .ok ps) :
    ∃ qs, Items.positions? items' = .ok qs ∧ PlacesGrow N ps qs := by
  obtain ⟨rows, hrows, rfl⟩ := map_ok_iff.1 hps
  obtain ⟨rows', hrows', hmem, hsettled⟩ := h.exists_rows (rows?_eq_ok.1 hrows)
  refine ⟨_, map_ok_iff.2 ⟨rows', rows?_eq_ok.2 hrows', rfl⟩, fun p hp => ?_, fun p hoff hp => ?_⟩
  · simp only [Std.HashSet.contains_ofList, List.contains_iff_mem, List.mem_map] at hp ⊢
    obtain ⟨r, hr, rfl⟩ := hp
    obtain ⟨r', hr', hkey⟩ := hmem r hr
    exact ⟨r', hr', congrArg Prod.fst hkey⟩
  · simp only [Std.HashSet.contains_ofList, List.contains_iff_mem, List.mem_map] at hp ⊢
    obtain ⟨r', hr', rfl⟩ := hp
    rcases hsettled r' hr' with hon | ⟨-, r, hr, hkey⟩
    · exact absurd hon.position hoff
    · exact ⟨r, hr, congrArg Prod.fst hkey⟩

/-- Branches that grow. -/
abbrev Each (N : NodeId → Prop) : List (Unit → Items) → List (Unit → Items) → Prop :=
  List.Forall₂ fun b b' => Grows N (b ()) (b' ())

variable {bs bs' : List (Unit → Items)}

theorem sets (h : Each N bs bs') {sets : List (Std.HashSet Position)}
    (hsets : (bs.mapM fun b => Items.positions? (b ())) = .ok sets) :
    ∃ sets', (bs'.mapM fun b => Items.positions? (b ())) = .ok sets' ∧
      List.Forall₂ (PlacesGrow N) sets sets' := by
  induction h generalizing sets with
  | nil =>
    cases hsets
    exact ⟨[], rfl, .nil⟩
  | cons hb _ ih =>
    rw [List.mapM_cons] at hsets
    obtain ⟨set, hset, hsets⟩ := bind_ok_iff.1 hsets
    obtain ⟨rest, hrest, hsets⟩ := bind_ok_iff.1 hsets
    cases hsets
    obtain ⟨set', hset', hgrow⟩ := hb.positions? hset
    obtain ⟨rest', hrest', hgrows⟩ := ih hrest
    refine ⟨set' :: rest', ?_, .cons hgrow hgrows⟩
    rw [List.mapM_cons, hset', hrest']
    rfl

/-- Rows at places that occur in all branches. -/
theorem siftBy {items items' : Unit → Items} (h : Grows N (items ()) (items' ()))
    (hb : Each N bs bs') : Grows N (siftBy true bs items) (siftBy true bs' items') := by
  refine drain fun sets hsets => ?_
  obtain ⟨sets', hsets', hgrow⟩ := Grows.sets hb hsets
  refine ⟨sets', hsets', h.keep (fun r r' hkey ht => ?_) (fun r hr => trivial) ?_⟩
  · obtain ⟨hposition, -⟩ := Prod.mk.inj hkey
    rw [Except.ok.injEq, if_pos rfl] at ht ⊢
    rw [hposition]
    exact PlacesGrow.all_mono hgrow ht
  · intro r r' b hr' hkey hb
    obtain ⟨hposition, -⟩ := Prod.mk.inj hkey
    rw [← hb, if_pos rfl, if_pos rfl, ← hposition, PlacesGrow.all_eq hgrow (hr'.not_on hkey)]

/-! ### Unions -/

theorem append {more more' : Unit → Items} (h : Grows N items items')
    (hmore : Grows N (more ()) (more' ())) :
    Grows N (items.append more) (items'.append more') where
  rows := by
    intro r hr
    rw [LazyList.toList_append, List.mem_append] at hr
    rw [LazyList.toList_append]
    rcases hr with hr | hr
    · obtain ⟨r', hr', hkey⟩ := h.rows r hr
      exact ⟨r', List.mem_append_left _ hr', hkey⟩
    · obtain ⟨r', hr', hkey⟩ := hmore.rows r hr
      exact ⟨r', List.mem_append_right _ hr', hkey⟩
  sound := by
    intro rows hrows
    unfold Lists at hrows
    rw [LazyList.toList_append] at hrows
    obtain ⟨as, bs, rfl, has, hbs⟩ := List.map_eq_append_iff.1 hrows.symm
    intro item hitem
    rw [LazyList.toList_append, List.mem_append] at hitem
    rcases hitem with hitem | hitem
    · exact (h.sound as has.symm item hitem).mono
        (fun _ hr => hr.of_subset fun _ => List.mem_append_left _) fun _ he => he
    · exact (hmore.sound bs hbs.symm item hitem).mono
        (fun _ hr => hr.of_subset fun _ => List.mem_append_right _) fun _ he => he

theorem concat (h : Each N bs bs') : Grows N (.concat bs) (.concat bs') := by
  induction h with
  | nil =>
    have hnone : Grows N (ofRows ([].map .atNode)) (ofRows ([].map .atNode)) :=
      atNode (by simp) (by simp)
    exact hnone
  | cons hb _ ih => exact hb.append ih

/-- A row that repeats another one is not kept, but the other one is. -/
theorem distinct (h : Grows N items items') : Grows N (distinct items) (distinct items') where
  rows := by
    intro r hr
    obtain ⟨r', hr', hkey⟩ := h.rows r (mem_of_mem_distinct hr)
    obtain ⟨r'', hr'', hposition, htags⟩ := exists_mem_distinct hr'
    exact ⟨r'', hr'', (Prod.ext hposition htags : rowKey r'' = rowKey r').trans hkey⟩
  sound := by
    intro rows hrows
    obtain ⟨all, hall, -, hkeys⟩ := exists_of_lists_distinct hrows
    have hdistinct : (Items.distinct items').All (Row.Settled N all) fun _ => False :=
      (h.sound all hall).of_subset fun _ => mem_of_mem_distinct
    refine hdistinct.mono (fun r hr => hr.mono fun r₀ hr₀ => ?_) fun _ he => he
    exact List.mem_map.1 ((hkeys _).2 (List.mem_map_of_mem hr₀))

end Grows

end Items

end QuadWalk
