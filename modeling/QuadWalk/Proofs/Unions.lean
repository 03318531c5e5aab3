import QuadWalk.Proofs.FirstSeen
import QuadWalk.Proofs.Undoing

/-!
# Unions

A union goes through the rows of its origin and then through those of each branch, and leaves out
rows whose place and tags it has seen before. Nothing is lost by that but trails: of the rows with
one place and the same tags the first one is kept with its own trail, and errors stay where they are
(`Plan.union_firstSeen`).

Which rows are left of the branches does not depend on whether those before them were freed of
repetitions by a union of their own. So a union of a union is one union, and a branch that is there
already adds no row. It does add its errors, which are never repetitions of one another.
-/

namespace QuadWalk

open Items

namespace Items

/-- Whether two items are rows at one place with the same tags. -/
def alike : Item → Item → Bool := LazyList.sameKey key?

theorem alike_trans (a b c : Item) : alike a b = true → alike b c = true → alike a c = true :=
  sameKey_trans a b c

theorem toList_distinct (items : Items) :
    (distinct items).toList = items.toList.eraseDupsBy alike :=
  LazyList.toList_distinct key? items

theorem alike_self (r : Row) : alike (.ok r) (.ok r) = true := by
  simp [alike, LazyList.sameKey, key?]

/-- No row is new where it has been before. -/
theorem rows_filter_isNew {before l : List Item} (h : ∀ item ∈ l, item ∈ before) :
    ((l.filter (isNew alike before)).eraseDupsBy alike).filterMap Except.toOption = [] := by
  rw [List.filterMap_eq_nil_iff]
  intro item hitem
  obtain ⟨hmem, hnew⟩ := List.mem_filter.1 (mem_of_mem_eraseDupsBy hitem)
  cases item with
  | error e => rfl
  | ok r =>
    have hself := isNew_eq_true.1 hnew _ (h _ hmem)
    simp [alike_self] at hself

end Items

namespace Plan

variable {g : Graph} {anchors : Anchors} {p : Plan} {bs cs : List Plan}

/-- The items of some plans, one plan after the other. -/
def itemsOfAll (g : Graph) (anchors : Anchors) (ps : List Plan) : List Item :=
  ps.flatMap fun q => (q.items g anchors).toList

theorem itemsOfAll_append (ps qs : List Plan) :
    itemsOfAll g anchors (ps ++ qs) = itemsOfAll g anchors ps ++ itemsOfAll g anchors qs :=
  List.flatMap_append

/-- What a union looks for repetitions in. -/
theorem toList_joined : ((p.items g anchors).append fun _ =>
    .concat (itemsEach g bs anchors)).toList = itemsOfAll g anchors (p :: bs) := by
  rw [LazyList.toList_append, LazyList.toList_concat, itemsEach_eq_map, List.flatMap_map]
  rfl

theorem toList_union : ((union p bs).items g anchors).toList =
    (itemsOfAll g anchors (p :: bs)).eraseDupsBy alike := by
  rw [items, toList_distinct, toList_joined]

/-- A row that a union drops has the place and the tags of one that it keeps. -/
theorem exists_mem_union {r : Row} (h : .ok r ∈ itemsOfAll g anchors (p :: bs)) :
    ∃ r', .ok r' ∈ ((union p bs).items g anchors).toList ∧ r'.position = r.position ∧
      r'.tags = r.tags := by
  rw [← toList_joined] at h
  rw [items]
  exact exists_mem_distinct h

/-- A union of a union is one union. -/
theorem toList_union_union : ((union (union p bs) cs).items g anchors).toList =
    ((union p (bs ++ cs)).items g anchors).toList := by
  have hinner : itemsOfAll g anchors (union p bs :: cs) =
      (itemsOfAll g anchors (p :: bs)).eraseDupsBy alike ++ itemsOfAll g anchors cs := by
    rw [← toList_union]
    rfl
  rw [toList_union, hinner, eraseDupsBy_append_left alike_trans, ← itemsOfAll_append,
    List.cons_append, toList_union]

/-- Branches that are there already, or are the origin, add no row. -/
theorem rows_union_append (h : ∀ c ∈ cs, c ∈ p :: bs) :
    rows ((union p (bs ++ cs)).items g anchors) = rows ((union p bs).items g anchors) := by
  have hmem : ∀ item ∈ itemsOfAll g anchors cs, item ∈ itemsOfAll g anchors (p :: bs) := by
    intro item hitem
    obtain ⟨c, hc, hitem⟩ := List.mem_flatMap.1 hitem
    exact List.mem_flatMap.2 ⟨c, h c hc, hitem⟩
  rw [rows, rows, toList_union, toList_union, ← List.cons_append, itemsOfAll_append,
    eraseDupsBy_append alike_trans, List.filterMap_append, rows_filter_isNew hmem, List.append_nil]

/-- **A union loses nothing and repeats nothing.** On any graph and for all anchors, of the items of
the origin and then of each branch it has the first row with each place and tags, trail included, in
the order in which these first appear; and it has every error, in its place among the items, since
an item is left exactly if nothing before it is alike. So a union of a union is one union, and to
add one branch twice is to add its rows once. -/
theorem union_firstSeen (g : Graph) (anchors : Anchors) (p : Plan) (bs : List Plan) :
    FirstSeen key? (itemsOfAll g anchors (p :: bs)) ((union p bs).items g anchors).toList ∧
    ((union p bs).items g anchors).toList =
      ((itemsOfAll g anchors (p :: bs)).zipIdx.filter fun x =>
        isNew alike ((itemsOfAll g anchors (p :: bs)).take x.2) x.1).map Prod.fst ∧
    (∀ cs, ((union (union p bs) cs).items g anchors).toList =
      ((union p (bs ++ cs)).items g anchors).toList) ∧
    ∀ b, rows ((union (union p [b]) [b]).items g anchors) =
      rows ((union p [b]).items g anchors) := by
  refine ⟨?_, ?_, fun cs => toList_union_union, fun b => ?_⟩
  · rw [toList_union]
    exact firstSeen_eraseDupsBy _
  · rw [toList_union]
    exact eraseDupsBy_eq_zipIdx alike_trans _
  · rw [rows, toList_union_union, ← rows]
    exact rows_union_append (by simp)

/-- The errors of a branch that is added twice are there twice. -/
example : ((union .allNodes [.anchor 0, .anchor 0]).items QuadStore.empty.graph []).toList =
    [.error (.malformedStep (.strayAnchor 0)), .error (.malformedStep (.strayAnchor 0))] := by
  rw [toList_union]
  rfl

end Plan

end QuadWalk
