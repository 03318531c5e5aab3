import QuadWalk.Proofs.SetAlgebra

/-!
# Pages

To skip is to count rows, and to limit is to count items: an error among them is an item and not a
row. Which items skipping leaves is said place by place (`Items.toList_skip`), by how many rows
stand before it; so no error is ever lost, and the errors stand among the rows as before.

Where there are no errors, both count the same. Then the pages of a plan, each of which has as many
rows as the others but perhaps the last, are the pieces into which its rows are cut, and each row is
on one of them (`Plan.pages_partition`).
-/

namespace QuadWalk

namespace Items

/-! ### Skipping rows -/

/-- How many rows are among some items. -/
def rowCount (items : List Item) : Nat := items.countP Except.isOk

/-- **What is left of some items without the first rows**: every error, and each row that has at
least so many rows before it. -/
def withoutRows (n : Nat) (items : List Item) : List Item :=
  (items.zipIdx.filter fun x => !x.1.isOk || n ≤ rowCount (items.take x.2)).map Prod.fst

section WithoutRows

variable {item : Item} {items : List Item} {n : Nat}

/-- What is left of the items after the first one, which is one of those before them. -/
theorem withoutRows_cons : withoutRows n (item :: items) =
    (if !item.isOk || n = 0 then [item] else []) ++
      (items.zipIdx.filter fun x => !x.1.isOk || n ≤ rowCount (item :: items.take x.2)).map
        Prod.fst := by
  have hlater : (item :: items).zipIdx =
      (item, 0) :: items.zipIdx.map fun x => (x.1, x.2 + 1) := by
    rw [List.zipIdx_cons, List.zipIdx_succ]
  have hfirst : (n ≤ rowCount ((item :: items).take 0)) = (n = 0) := by simp [rowCount]
  rw [withoutRows, hlater, List.filter_cons, List.filter_map]
  simp only [hfirst]
  split
  · rw [List.map_cons, List.map_map]
    rfl
  · rw [List.map_map]
    rfl

/-- An error is left and does not count. -/
theorem withoutRows_cons_error {e : QueryError} :
    withoutRows n (.error e :: items) = .error e :: withoutRows n items := by
  rw [withoutRows_cons]
  rfl

/-- A row counts. -/
theorem withoutRows_succ_cons_ok {r : Row} :
    withoutRows (n + 1) (.ok r :: items) = withoutRows n items := by
  have hcount (before : List Item) :
      (n + 1 ≤ rowCount (.ok r :: before)) = (n ≤ rowCount before) := by
    rw [rowCount, List.countP_cons_of_pos rfl, Nat.add_le_add_iff_right, rowCount]
  rw [withoutRows_cons]
  simp only [hcount]
  rfl

theorem withoutRows_zero : withoutRows 0 items = items := by
  simp [withoutRows]

/-- Without errors, the first items are left out. -/
theorem withoutRows_map_ok (all : List Row) :
    withoutRows n (all.map .ok) = (all.drop n).map .ok := by
  induction all generalizing n with
  | nil =>
    rw [List.drop_nil]
    rfl
  | cons r all ih =>
    cases n with
    | zero => rw [withoutRows_zero, List.drop_zero]
    | succ n => rw [List.map_cons, withoutRows_succ_cons_ok, ih, List.drop_succ_cons]

end WithoutRows

/-- **To skip rows is to leave out the first ones.** -/
theorem toList_skip (n : Nat) (items : Items) :
    (skip n items).toList = withoutRows n items.toList := by
  fun_induction skip n items with
  | case1 items => exact withoutRows_zero.symm
  | case2 n => rfl
  | case3 n r tail ih => rw [ih, LazyList.toList_cons, withoutRows_succ_cons_ok]
  | case4 n e tail ih =>
    rw [LazyList.toList_cons, LazyList.toList_cons, ih, withoutRows_cons_error]

/-- The rows that are left are those after the first ones. -/
theorem rows_skip (n : Nat) (items : Items) : rows (skip n items) = (rows items).drop n := by
  have hok (r : Row) (tail : Unit → Items) : rows (.cons (.ok r) tail) = r :: rows (tail ()) := by
    rw [rows, LazyList.toList_cons]
    rfl
  have herror (e : QueryError) (tail : Unit → Items) :
      rows (.cons (.error e) tail) = rows (tail ()) := by
    rw [rows, LazyList.toList_cons]
    rfl
  fun_induction skip n items with
  | case1 items => rfl
  | case2 n => rfl
  | case3 n r tail ih => rw [ih, hok, List.drop_succ_cons]
  | case4 n e tail ih => rw [herror, herror, ih]

end Items

/-! ### Pieces of a list -/

section Pieces

variable {α : Type} {l : List α} {k : Nat}

/-- The pieces of some length, one after the other, are the list as far as they go. -/
theorem flatMap_pieces (l : List α) (k count : Nat) :
    ((List.range count).flatMap fun i => (l.drop (i * k)).take k) = l.take (count * k) := by
  induction count with
  | zero => simp
  | succ count ih => rw [List.range_succ, List.flatMap_append, ih, List.flatMap_singleton,
      Nat.succ_mul, List.take_add]

/-- Each place of a list is a place of exactly one piece. -/
theorem existsUnique_piece (hk : 0 < k) {j : Nat} (hj : j < l.length) :
    ∃! i, ∃ o < ((l.drop (i * k)).take k).length,
      i * k + o = j ∧ ((l.drop (i * k)).take k)[o]? = l[j]? := by
  have hdivision : j / k * k + j % k = j := Nat.div_add_mod' j k
  have hlt : j % k < k := Nat.mod_lt j hk
  refine ⟨j / k, ⟨j % k, ?_, hdivision, ?_⟩, ?_⟩
  · rw [List.length_take, List.length_drop]
    omega
  · rw [List.getElem?_take_of_lt hlt, List.getElem?_drop, hdivision]
  · rintro i ⟨o, ho, rfl, -⟩
    rw [List.length_take] at ho
    rw [Nat.add_comm, Nat.add_mul_div_right _ _ hk, Nat.div_eq_of_lt (by omega), Nat.zero_add]

end Pieces

namespace Plan

open Items

variable {g : Graph} {anchors : Anchors} {p : Plan} {all : List Row} {k : Nat}

/-! ### Pages -/

/-- The page with a number, of so many rows each. -/
def page (p : Plan) (k i : Nat) : Plan := limit (skip p (i * k)) k

theorem toList_limit (n : Nat) :
    ((limit p n).items g anchors).toList = (p.items g anchors).toList.take n := by
  rw [items, LazyList.toList_limit]

theorem toList_page (i : Nat) : ((p.page k i).items g anchors).toList =
    (withoutRows (i * k) (p.items g anchors).toList).take k := by
  rw [page, toList_limit, items, toList_skip]

/-- Without errors, a page is a piece of the rows. -/
theorem lists_page (h : (p.items g anchors).Lists all) (i : Nat) :
    ((p.page k i).items g anchors).Lists ((all.drop (i * k)).take k) := by
  rw [Items.Lists, toList_page, show (p.items g anchors).toList = _ from h, withoutRows_map_ok,
    List.map_take]

/-- **Pages partition the rows, and no error is hidden.** On any graph and for all anchors, the
pages of a plan without errors, of any length but zero, are without errors, too; enough of them are
all its rows, one page after the other, and each place among the rows is a place on exactly one
page. Of any plan, to skip rows leaves out the first ones, so many or all of them, and leaves every
error in its place; to limit leaves the first items, errors among them. -/
theorem pages_partition (g : Graph) (anchors : Anchors) (p : Plan) :
    (∀ k, 0 < k → ErrorFree g anchors p →
      let all := rows (p.items g anchors)
      let onPage (i : Nat) := rows ((p.page k i).items g anchors)
      (∀ i, ErrorFree g anchors (p.page k i)) ∧
      (∀ count, all.length ≤ count * k → (List.range count).flatMap onPage = all) ∧
      ∀ j < all.length, ∃! i, ∃ o < (onPage i).length, i * k + o = j ∧ (onPage i)[o]? = all[j]?) ∧
    (∀ n, ((skip p n).items g anchors).toList = withoutRows n (p.items g anchors).toList ∧
      rows ((skip p n).items g anchors) = (rows (p.items g anchors)).drop n) ∧
    ∀ n, ((limit p n).items g anchors).toList = (p.items g anchors).toList.take n := by
  refine ⟨fun k hk h => ?_, fun n => ?_, fun n => toList_limit n⟩
  · have hpage (i : Nat) := lists_page (k := k) h.lists i
    have hrows (i : Nat) : rows ((p.page k i).items g anchors) =
        ((rows (p.items g anchors)).drop (i * k)).take k := (hpage i).rows_eq
    refine ⟨fun i => ⟨_, hpage i⟩, fun count hcount => ?_, fun j hj => ?_⟩
    · simp only [hrows]
      rw [flatMap_pieces, List.take_of_length_le hcount]
    · simp only [hrows]
      exact existsUnique_piece hk hj
  · rw [items]
    exact ⟨toList_skip n _, rows_skip n _⟩

/-- Four neighbors are on two pages of three, and the second page has one of them. -/
theorem pages_partition_neighbors :
    0 < 3 ∧ ErrorFree bobLikedByTwo.graph [] neighborsOfAll ∧
    ErrorFree bobLikedByTwo.graph [] (neighborsOfAll.page 3 1) ∧
    (List.range 2).flatMap
      (fun i => rows ((neighborsOfAll.page 3 i).items bobLikedByTwo.graph [])) = neighborRows ∧
    rows ((neighborsOfAll.page 3 1).items bobLikedByTwo.graph []) = [.moveTo (.atNode 3) 2] := by
  have hlists : (neighborsOfAll.items bobLikedByTwo.graph []).Lists neighborRows :=
    eq_map_ok_of_toOption (by decide +kernel)
  obtain ⟨hfree, hall, -⟩ := (pages_partition bobLikedByTwo.graph [] neighborsOfAll).1 3 (by decide)
    ⟨_, hlists⟩
  rw [hlists.rows_eq] at hall
  exact ⟨by decide, ⟨_, hlists⟩, hfree 1, hall 2 (by decide), (lists_page hlists 1).rows_eq⟩

/-- To skip one row leaves the errors before it and after it, and the rows after it. -/
example (e : QueryError) (r s : Row) :
    withoutRows 1 [.error e, .ok r, .error e, .ok s] = [.error e, .error e, .ok s] := rfl

end Plan

end QuadWalk
