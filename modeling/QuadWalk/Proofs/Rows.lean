import QuadWalk.Plan.Items
import QuadWalk.Proofs.Computations
import QuadWalk.Proofs.Distinct

/-!
# The rows among the items of an operator

For each operator on items, which rows it yields, in terms of the rows among the items that it is
given: an operator that goes row by row makes each of its rows from one of them, and one that needs
all rows first yields rows only if there is no error among them.

Where there is no error, the items are their rows and nothing else (`Items.Lists`). A plan may be
such that this is so (`Plan.ErrorFree`).
-/

namespace QuadWalk

namespace Items

variable {items : Items} {r : Row}

/-! ### One row after the other -/

/-- A row of an expansion is one of those that some row is replaced by. -/
theorem mem_expand {f : Row → Except QueryError (List Row)} :
    .ok r ∈ (expand f items).toList ↔
      ∃ r₀ rows, .ok r₀ ∈ items.toList ∧ f r₀ = .ok rows ∧ r ∈ rows := by
  simp only [expand, LazyList.toList_flatMap, List.mem_flatMap]
  constructor
  · rintro ⟨item, hitem, hr⟩
    cases item with
    | error e => simp at hr
    | ok r₀ =>
      cases hf : f r₀ with
      | error e => simp [hf] at hr
      | ok rows =>
        simp only [hf, List.mem_map, Except.ok.injEq, exists_eq_right] at hr
        exact ⟨r₀, rows, hitem, hf, hr⟩
  · rintro ⟨r₀, rows, hitem, hf, hr⟩
    exact ⟨.ok r₀, hitem, by simp [hf, hr]⟩

theorem mem_keep {test : Row → Except QueryError Bool} :
    .ok r ∈ (keep test items).toList ↔ .ok r ∈ items.toList ∧ test r = .ok true := by
  rw [keep, mem_expand]
  constructor
  · rintro ⟨r₀, rows, hitem, ht, hr⟩
    cases hb : test r₀ with
    | error e => simp [hb, Except.map] at ht
    | ok b =>
      simp only [hb, Except.map, Except.ok.injEq] at ht
      subst ht
      cases b with
      | false => simp at hr
      | true =>
        obtain rfl : r = r₀ := by simpa using hr
        exact ⟨hitem, hb⟩
  · rintro ⟨hitem, ht⟩
    exact ⟨r, [r], hitem, by simp [ht, Except.map], by simp⟩

theorem mem_change {f : Row → Option Row} :
    .ok r ∈ (change f items).toList ↔ ∃ r₀, .ok r₀ ∈ items.toList ∧ f r₀ = some r := by
  rw [change, mem_expand]
  constructor
  · rintro ⟨r₀, rows, hitem, hf, hr⟩
    cases hf
    exact ⟨r₀, hitem, by simpa [eq_comm] using hr⟩
  · rintro ⟨r₀, hitem, hf⟩
    exact ⟨r₀, [r], hitem, by simp [hf], by simp⟩

theorem mem_of_mem_skip {n : Nat} {item : Item} (h : item ∈ (skip n items).toList) :
    item ∈ items.toList := by
  fun_induction skip n items with
  | case1 items => exact h
  | case2 n => simp at h
  | case3 n r tail ih =>
    rw [LazyList.toList_cons]
    exact List.mem_cons_of_mem _ (ih h)
  | case4 n e tail ih =>
    rw [LazyList.toList_cons] at h ⊢
    exact List.mem_cons.2 ((List.mem_cons.1 h).imp_right ih)

theorem mem_isOneOf {nodes : NodeSet} {values : List Value}
    (h : .ok r ∈ (isOneOf nodes values items).toList) : .ok r ∈ items.toList :=
  (mem_keep.1 h).1

/-- What a union goes through: the items of its origin, and then those of its branches. -/
theorem mem_append_concat {branches : List (Unit → Items)} {item : Item} :
    item ∈ (items.append fun _ => .concat branches).toList ↔
      item ∈ items.toList ∨ ∃ b ∈ branches, item ∈ (b ()).toList := by
  rw [LazyList.toList_append, LazyList.toList_concat, List.mem_append, List.mem_flatMap]

theorem mem_of_mem_distinct {item : Item} (h : item ∈ (distinct items).toList) :
    item ∈ items.toList := by
  rw [distinct, LazyList.toList_distinct] at h
  exact mem_of_mem_eraseDupsBy h

/-- A row that is dropped has the place and the tags of one that is kept. -/
theorem exists_mem_distinct (h : .ok r ∈ items.toList) :
    ∃ r', .ok r' ∈ (distinct items).toList ∧ r'.position = r.position ∧ r'.tags = r.tags := by
  obtain ⟨item, hitem, hsame⟩ :
      ∃ item ∈ (distinct items).toList,
        item = .ok r ∨ LazyList.sameKey key? (.ok r) item = true := by
    rw [distinct, LazyList.toList_distinct]
    exact exists_mem_eraseDupsBy h
  rcases hsame with rfl | hsame
  · exact ⟨r, hitem, rfl, rfl⟩
  · cases item with
    | error e => simp [LazyList.sameKey, key?] at hsame
    | ok r' =>
      obtain ⟨hp, ht⟩ : r.position = r'.position ∧ r.tags = r'.tags := by
        simpa [LazyList.sameKey, key?] using hsame
      exact ⟨r', hitem, hp.symm, ht.symm⟩

/-! ### All rows first -/

/-- There are rows of what depends on a computation only if that succeeds. -/
theorem mem_drain {α : Type} {prepared : Except QueryError α} {f : α → Items} :
    .ok r ∈ (drain prepared f).toList ↔ ∃ a, prepared = .ok a ∧ .ok r ∈ (f a).toList := by
  cases prepared with
  | error e => simp [drain]
  | ok a => simp [drain]

@[simp]
theorem toList_ofRows (rows : List Row) : (ofRows rows).toList = rows.map .ok :=
  LazyList.toList_ofList _

theorem mem_ofRows {rows : List Row} : .ok r ∈ (ofRows rows).toList ↔ r ∈ rows := by simp

theorem mem_ofRows_singleton {r₀ : Row} : .ok r ∈ (ofRows [r₀]).toList ↔ r = r₀ := by simp

/-- Rows that begin at nodes have no tags. -/
theorem tags_of_mem_ofRows_atNode {ids : List NodeId}
    (h : .ok r ∈ (ofRows (ids.map .atNode)).toList) : r.tags = .empty := by
  obtain ⟨id, -, rfl⟩ := List.mem_map.1 (mem_ofRows.1 h)
  rfl

theorem mem_of_mem_rows? {rows : List Row} (h : rows? items = .ok rows) (hr : r ∈ rows) :
    .ok r ∈ items.toList := by
  rw [rows?, LazyList.traverse_eq] at h
  obtain ⟨item, hitem, rfl⟩ := exists_of_mem_mapM h hr
  exact hitem

theorem mem_of_mem_unique (h : .ok r ∈ (unique items).toList) : .ok r ∈ items.toList := by
  obtain ⟨rows, hrows, hr⟩ := mem_drain.1 h
  rw [mem_ofRows, LazyList.toList_distinct, LazyList.toList_ofList] at hr
  exact mem_of_mem_rows? hrows (mem_of_mem_eraseDupsBy hr)

/-- What is sorted is a row with its value. -/
theorem withValue_eq_ok {g : Graph} {item : Item} {v : Value} {r : Row} :
    withValue g item = .ok (v, r) ↔ item = .ok r ∧ g.valueAt r.position = .ok v := by
  cases item with
  | error e => simp [withValue, bind, Except.bind]
  | ok r' =>
    constructor
    · intro h
      obtain ⟨w, hw, heq⟩ := bind_ok_iff.1 (show (g.valueAt r'.position >>= fun w =>
        pure (w, r')) = .ok (v, r) from h)
      cases heq
      exact ⟨rfl, hw⟩
    · rintro ⟨h, hv⟩
      cases h
      show (g.valueAt r.position >>= fun w => pure (w, r)) = .ok (v, r)
      exact bind_ok_iff.2 ⟨v, hv, rfl⟩

theorem mem_of_mem_order {g : Graph} (h : .ok r ∈ (order g items).toList) :
    .ok r ∈ items.toList := by
  obtain ⟨rows, hrows, hr⟩ := mem_drain.1 h
  obtain ⟨⟨v, r'⟩, hp, rfl⟩ := List.mem_map.1 (mem_ofRows.1 hr)
  rw [LazyList.traverse_eq] at hrows
  obtain ⟨item, hitem, hv⟩ := exists_of_mem_mapM hrows (List.mem_mergeSort.1 hp)
  obtain ⟨rfl, -⟩ := withValue_eq_ok.1 hv
  exact hitem

/-- The row that counts others has no tags and nothing to go back to. -/
theorem eq_of_mem_count (h : .ok r ∈ (count items).toList) :
    ∃ n, r = { position := .computed (.int n) } := by
  obtain ⟨rows, -, hr⟩ := mem_drain.1 h
  exact ⟨_, by simpa using mem_ofRows.1 hr⟩

theorem mem_of_mem_siftBy {inAll : Bool} {branches : List (Unit → Items)} {items : Unit → Items}
    (h : .ok r ∈ (siftBy inAll branches items).toList) : .ok r ∈ (items ()).toList := by
  obtain ⟨sets, -, hr⟩ := mem_drain.1 h
  exact (mem_keep.1 hr).1

theorem mem_of_mem_limit {n : Nat} {items : Unit → Items} {item : Item}
    (h : item ∈ (LazyList.limit n items).toList) : item ∈ (items ()).toList := by
  rw [LazyList.toList_limit] at h
  exact List.mem_of_mem_take h

/-! ### The rows by themselves -/

/-- The rows among some items, in their order. -/
def rows (items : Items) : List Row := items.toList.filterMap Except.toOption

theorem mem_rows : r ∈ rows items ↔ .ok r ∈ items.toList := by
  rw [rows, List.mem_filterMap]
  constructor
  · rintro ⟨item, hitem, hr⟩
    exact eq_ok_of_toOption hr ▸ hitem
  · intro hr
    exact ⟨.ok r, hr, rfl⟩

/-! ### Items without errors -/

/-- The items are some rows, without an error among them. -/
def Lists (items : Items) (rows : List Row) : Prop := items.toList = rows.map .ok

/-- Without errors, the rows are all that there is. -/
theorem Lists.rows_eq {all : List Row} (h : Lists items all) : rows items = all := by
  rw [rows, show items.toList = all.map .ok from h, List.filterMap_map]
  exact List.filterMap_some

section Lists

variable {rows : List Row}

theorem lists_ofRows_iff {rs : List Row} : Lists (ofRows rs) rows ↔ rs = rows := by
  rw [Lists, toList_ofRows, map_ok_inj]

theorem Lists.mem_iff (h : Lists items rows) {r : Row} : .ok r ∈ items.toList ↔ r ∈ rows := by
  rw [show items.toList = rows.map .ok from h]
  simp

/-- Items without errors are those of some rows. -/
theorem exists_lists (h : ∀ e, .error e ∉ items.toList) : ∃ rows, Lists items rows := by
  have hok : ∀ item ∈ items.toList, ∃ r, id item = .ok r := by
    rintro (e | r) hitem
    · exact absurd hitem (h e)
    · exact ⟨r, rfl⟩
  obtain ⟨rows, hrows⟩ := exists_map_eq_ok hok
  exact ⟨rows, by rwa [List.map_id] at hrows⟩

theorem not_lists_error {e : QueryError} : ¬ Lists (.ofList [.error e]) rows := by
  unfold Lists
  cases rows <;> simp

theorem rows?_eq_ok : rows? items = .ok rows ↔ Lists items rows := by
  rw [rows?, LazyList.traverse_eq, mapM_ok_iff, List.map_id, Lists]

/-- The places of items without errors are those of their rows. -/
theorem positions?_eq_ok (h : Lists items rows) :
    positions? items = .ok (.ofList (rows.map (·.position))) := by
  rw [positions?, rows?_eq_ok.2 h]
  rfl

/-- Rows that are changed or dropped without errors. -/
theorem lists_expand {f : Row → Except QueryError (List Row)}
    {test : Row → Bool} {change : Row → Row} (h : Lists items rows)
    (hf : ∀ r ∈ rows, f r = .ok (if test r then [change r] else [])) :
    Lists (expand f items) ((rows.filter test).map change) := by
  rw [Lists, expand, LazyList.toList_flatMap, show items.toList = rows.map .ok from h]
  clear h
  induction rows with
  | nil => rfl
  | cons r rows ih =>
    rw [List.map_cons, List.flatMap_cons, ih fun r' hr' => hf r' (List.mem_cons_of_mem _ hr')]
    simp only [hf r List.mem_cons_self]
    by_cases ht : test r = true
    · rw [if_pos ht, List.filter_cons_of_pos ht]
      rfl
    · rw [if_neg ht, List.filter_cons_of_neg ht]
      rfl

/-- What passes a test that fails for no row. -/
theorem lists_keep {test : Row → Except QueryError Bool} {passes : Row → Bool}
    (h : Lists items rows) (ht : ∀ r ∈ rows, test r = .ok (passes r)) :
    Lists (keep test items) (rows.filter passes) := by
  have hreplaced : ∀ r ∈ rows, ((test r).map fun b => if b then [r] else []) =
      .ok (if passes r then [id r] else []) := by
    intro r hr
    rw [ht r hr]
    rfl
  rw [keep, ← List.map_id (rows.filter passes)]
  exact lists_expand h hreplaced

/-- An expansion is without errors if its origin is and no row is replaced by an error. -/
theorem exists_of_lists_expand {f : Row → Except QueryError (List Row)}
    (h : Lists (expand f items) rows) :
    ∃ origin, Lists items origin ∧ (∀ r ∈ origin, ∃ rs, f r = .ok rs) ∧
      rows = origin.flatMap fun r => ((f r).toOption.getD []) := by
  unfold Lists expand at *
  rw [LazyList.toList_flatMap] at h
  generalize items.toList = l at h
  induction l generalizing rows with
  | nil =>
    obtain rfl : rows = [] := by simpa using h.symm
    exact ⟨[], rfl, by simp, rfl⟩
  | cons item l ih =>
    rw [List.flatMap_cons] at h
    obtain ⟨rs, rest, rfl, hrs, hrest⟩ := List.map_eq_append_iff.1 h.symm
    obtain ⟨origin, rfl, hok, rfl⟩ := ih hrest.symm
    cases item with
    | error e => cases rs <;> simp at hrs
    | ok r =>
      cases hf : f r with
      | error e => cases rs <;> simp [hf] at hrs
      | ok rs' =>
        obtain rfl : rs = rs' := map_ok_inj.1 (by simpa only [hf] using hrs)
        refine ⟨r :: origin, rfl, List.forall_mem_cons.2 ⟨⟨rs, hf⟩, hok⟩, ?_⟩
        simp [hf, Except.toOption]

/-- Items without errors have their nodes. -/
theorem exists_nodeSet?_eq_ok {items : Items} {rows : List Row} (h : items.Lists rows) :
    ∃ nodes, nodeSet? items = .ok nodes := by
  rw [nodeSet?, rows?_eq_ok.2 h]
  exact ⟨_, rfl⟩

end Lists

end Items

/-! ### Plans without errors -/

namespace Plan

variable {g : Graph} {anchors : Anchors} {p : Plan}

/-- A plan has no errors among its items. -/
def ErrorFree (g : Graph) (anchors : Anchors) (p : Plan) : Prop :=
  ∃ rows, (p.items g anchors).Lists rows

theorem ErrorFree.lists (h : ErrorFree g anchors p) :
    (p.items g anchors).Lists (Items.rows (p.items g anchors)) := by
  obtain ⟨rows, hrows⟩ := h
  rwa [hrows.rows_eq]

end Plan

end QuadWalk
