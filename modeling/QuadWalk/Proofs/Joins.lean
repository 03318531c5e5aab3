import QuadWalk.Proofs.Rows
import QuadWalk.Proofs.TagMap
import QuadWalk.Store.QuadStore

/-!
# Conditions and options

A condition with one branch and an option do the same with a row for which the branch has a row:
they lay the tags of the first one over its own. They part where the branch has none: the option
keeps the row as it is, and the condition drops it. So a condition is an option without the misses
(`Plan.whereAll_eq_optional_of_hits`).

How many rows the branch has does not matter, nor where they are; no more than the first of them is
looked at, and only at its tags.
-/

namespace QuadWalk

/-! ### A row and the first row of a branch -/

namespace Row

/-- A row with the tags of the first row of a branch over its own, if the branch has one. -/
def joined (r : Row) (first : Option Row) : Row :=
  { r with tags := first.elim r.tags fun m => r.tags.overlay m.tags }

@[simp]
theorem joined_none (r : Row) : r.joined none = r := rfl

/-- A row is where another one is, came there on the same way and binds all of its tags. -/
structure Extends (r r' : Row) : Prop where
  position : r'.position = r.position
  trail : r'.trail = r.trail
  tags : ∀ t ∈ r.tags.tags, t ∈ r'.tags.tags

theorem extends_joined (r : Row) (first : Option Row) : r.Extends (r.joined first) where
  position := rfl
  trail := rfl
  tags := by
    intro t ht
    cases first with
    | none => exact ht
    | some m =>
      rw [TagMap.mem_tags_iff] at ht ⊢
      show ((r.tags.overlay m.tags).find? t).isSome = true
      rw [TagMap.find?_overlay, Option.isSome_or, ht, Bool.or_true]

end Row

namespace Items

/-- The first row of some items. -/
def firstRow? (items : Items) : Option Row := items.head?.bind Except.toOption

/-- Items without errors have a first row if they are not empty. -/
theorem isSome_firstRow? {items : Items} {rows : List Row} (h : items.Lists rows) :
    items.firstRow?.isSome = !items.toList.isEmpty := by
  rw [firstRow?, ← LazyList.head?_toList, show items.toList = rows.map .ok from h]
  cases rows <;> rfl

/-- A branch without errors is joined to a row for which it has a row. If it has none, the row is
dropped, unless the branch is optional. -/
theorem join_singleton_ok {branch : Unit → Items} {rows : List Row}
    (h : (branch ()).Lists rows) (isOptional : Bool) (r : Row) :
    join isOptional r [branch] = .ok
      (if isOptional || (branch ()).firstRow?.isSome then [r.joined (branch ()).firstRow?]
        else []) := by
  rw [join, joinTags, firstRow?, ← LazyList.head?_toList,
    show (branch ()).toList = rows.map .ok from h]
  cases rows with
  | nil => cases isOptional <;> rfl
  | cons m rows =>
    show Except.ok _ = _
    rw [List.map_cons, List.head?_cons, Option.bind_some, Except.toOption, Option.isSome_some,
      Bool.or_true, if_pos rfl]
    rfl

end Items

/-! ### Plans -/

namespace Plan

open Items

/-- The first row that a branch has for a row. -/
def firstFor (g : Graph) (b : Plan) (a : AnchorId) (anchors : Anchors) (r : Row) : Option Row :=
  (b.items g ((a, r) :: anchors)).firstRow?

variable {g : Graph} {p b : Plan} {a : AnchorId} {anchors : Anchors} {rows : List Row}

section

variable (hp : (p.items g anchors).Lists rows)
  (hb : ∀ r ∈ rows, ∃ found, (b.items g ((a, r) :: anchors)).Lists found)

include hp hb

/-- An option has one row for each row. -/
theorem lists_optional :
    ((optional p a b).items g anchors).Lists
      (rows.map fun r => r.joined (b.firstFor g a anchors r)) := by
  have hall : rows.filter (fun _ => true) = rows := List.filter_eq_self.2 fun _ _ => rfl
  rw [items, ← hall]
  refine lists_expand hp fun r hr => ?_
  obtain ⟨found, hfound⟩ := hb r hr
  exact join_singleton_ok hfound true r

/-- A condition has one row for each row for which the branch has a row. -/
theorem lists_whereAll :
    ((whereAll p a [b]).items g anchors).Lists
      ((rows.filter fun r => (b.firstFor g a anchors r).isSome).map fun r =>
        r.joined (b.firstFor g a anchors r)) := by
  rw [items]
  refine lists_expand hp fun r hr => ?_
  obtain ⟨found, hfound⟩ := hb r hr
  exact join_singleton_ok hfound false r

end

/-- **A condition is an option without the misses.** Take any plan, any branch and any anchor, on
any graph and under any anchors around them, so that neither the plan nor the branch, for any row of
the plan, has an error. The option has as many rows as the plan; each of them is where the row of
the plan is, with the same trail and at least the same tags, and is the row of the plan if the
branch has no row for it. The condition has those rows of the option for which the branch has a row,
in the same order. -/
theorem whereAll_eq_optional_of_hits (hp : (p.items g anchors).Lists rows)
    (hb : ∀ r ∈ rows, ∃ found, (b.items g ((a, r) :: anchors)).Lists found) :
    ∃ joined, ((optional p a b).items g anchors).Lists joined ∧ joined.length = rows.length ∧
      (∀ (i : Nat) (r r' : Row), rows[i]? = some r → joined[i]? = some r' → r.Extends r' ∧
        ((b.items g ((a, r) :: anchors)).toList = [] → r' = r)) ∧
      ((whereAll p a [b]).items g anchors).Lists
        (((rows.zip joined).filter fun pair =>
          !(b.items g ((a, pair.1) :: anchors)).toList.isEmpty).map Prod.snd) := by
  refine ⟨rows.map fun r => r.joined (b.firstFor g a anchors r), lists_optional hp hb,
    List.length_map _, ?_, ?_⟩
  · intro i r r' hr hr'
    rw [List.getElem?_map, hr, Option.map_some, Option.some.injEq] at hr'
    subst hr'
    refine ⟨r.extends_joined _, fun hnone => ?_⟩
    obtain ⟨found, hfound⟩ := hb r (List.mem_of_getElem? hr)
    have hfirst : b.firstFor g a anchors r = none := by
      rw [← Option.not_isSome_iff_eq_none, firstFor, isSome_firstRow? hfound, hnone]
      simp
    rw [hfirst, Row.joined_none]
  · -- a row has a partner in the option exactly where the branch has a row
    have hhits : rows.filter (fun r => (b.firstFor g a anchors r).isSome) =
        rows.filter fun r => !(b.items g ((a, r) :: anchors)).toList.isEmpty := by
      refine List.filter_congr fun r hr => ?_
      obtain ⟨found, hfound⟩ := hb r hr
      exact isSome_firstRow? hfound
    have hzip (f : Row → Row) : rows.zip (rows.map f) = rows.map fun r => (r, f r) := by
      rw [← List.zip_map', List.map_id']
    have hwhere := lists_whereAll hp hb
    rw [hhits] at hwhere
    rw [hzip, List.filter_map, List.map_map]
    exact hwhere

/-- Whom a row likes. -/
def liked : Plan := .tag (.hop .forward (.anchor 7) (.fixed [.iri "likes"])) "liked"

/-- Alice likes two others, and nobody else likes anybody: the option has a row for each of the four
nodes, and the condition one for Alice. -/
theorem whereAll_eq_optional_of_hits_liked :
    ∃ (g : Graph) (joined : List Row), ((optional .allNodes 7 liked).items g []).Lists joined ∧
      joined.length = 4 ∧ ((whereAll .allNodes 7 [liked]).items g []).Lists (joined.take 1) := by
  let g := (QuadStore.ofQuads
    [.ofIris "alice" "likes" "bob" "", .ofIris "alice" "likes" "carol" ""]).graph
  let rows : List Row := [0, 1, 2, 3].map .atNode
  have hp : (allNodes.items g []).Lists rows := eq_map_ok_of_toOption (by decide +kernel)
  have hfound : ∀ r ∈ rows, (liked.items g [(7, r)]).toList.map Except.toOption =
      (liked.items g [(7, r)]).rows.map some := by
    decide +kernel
  have hb : ∀ r ∈ rows, ∃ found, (liked.items g [(7, r)]).Lists found :=
    fun r hr => ⟨_, eq_map_ok_of_toOption (hfound r hr)⟩
  obtain ⟨joined, hoptional, hlength, -, hwhere⟩ := whereAll_eq_optional_of_hits hp hb
  have hempty : ∀ id ∈ [1, 2, 3], (liked.items g [(7, .atNode id)]).toList.isEmpty = true := by
    decide +kernel
  have hhit : (liked.items g [(7, .atNode 0)]).toList.isEmpty = false := by decide +kernel
  match joined, hlength with
  | [r₀, r₁, r₂, r₃], _ =>
    refine ⟨g, _, hoptional, rfl, ?_⟩
    simp only [List.forall_mem_cons] at hempty
    simpa [rows, hhit, hempty, -List.isEmpty_iff] using hwhere

end Plan

end QuadWalk
