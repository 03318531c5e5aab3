import QuadWalk.Proofs.Commuting

/-!
# All rows or one error

Sorting, counting and keeping the first row at each place need all rows before there is one. So an
error anywhere among the items is all that they yield: the first one, whatever comes before it or
after it (`firstFailure?`). To sort rows, the value of each is looked up as it comes; that may fail
before a later item does, and then that is the first error.

Without an error, the results are determined by the rows (`Plan.allOrNothing_breakers`). Of sorted
rows, this takes more than that they ascend: rows with one value must keep their order
(`Items.StablySorted`). Only one list is sorted in that way, since the total order puts no two
values beside each other.
-/

namespace QuadWalk

/-! ### What determines a sorted list -/

section Sorted

variable {α κ : Type} [DecidableEq κ] {key : α → κ} {le : κ → κ → Bool} {l l' : List α}

/-- Lists that have the same elements with each key have the same elements. -/
theorem mem_iff_of_filter_eq
    (h : ∀ k, l.filter (fun a => key a = k) = l'.filter fun a => key a = k) {a : α} :
    a ∈ l ↔ a ∈ l' := by
  have hmem : a ∈ l.filter (fun b => key b = key a) ↔ a ∈ l'.filter fun b => key b = key a := by
    rw [h]
  simpa using hmem

/-- Sorted lists that have the same elements with each key, in the same order, are equal, if the
order puts no two keys beside each other. -/
theorem eq_of_filter_eq (antisymm : ∀ k k', le k k' = true → le k' k = true → k = k')
    (hl : l.Pairwise fun a b => le (key a) (key b) = true)
    (hl' : l'.Pairwise fun a b => le (key a) (key b) = true)
    (h : ∀ k, l.filter (fun a => key a = k) = l'.filter fun a => key a = k) : l = l' := by
  induction l generalizing l' with
  | nil =>
    refine (List.eq_nil_iff_forall_not_mem.2 fun a ha => ?_).symm
    simpa using (mem_iff_of_filter_eq h).2 ha
  | cons a l ih =>
    cases l' with
    | nil => simpa using (mem_iff_of_filter_eq h).1 List.mem_cons_self
    | cons b l' =>
      obtain ⟨ha, htail⟩ := List.pairwise_cons.1 hl
      obtain ⟨hb, htail'⟩ := List.pairwise_cons.1 hl'
      -- each head is in the other list, so neither comes after the other
      have hkey : key a = key b := by
        rcases List.mem_cons.1 ((mem_iff_of_filter_eq h).1 List.mem_cons_self) with rfl | hal'
        · rfl
        rcases List.mem_cons.1 ((mem_iff_of_filter_eq h).2 List.mem_cons_self) with rfl | hbl
        · rfl
        exact antisymm _ _ (ha b hbl) (hb a hal')
      have hheads := h (key b)
      rw [List.filter_cons_of_pos (by simpa using hkey), List.filter_cons_of_pos (by simp)]
        at hheads
      obtain ⟨rfl, htails⟩ := List.cons.inj hheads
      refine congrArg (a :: ·) (ih htail htail' fun k => ?_)
      by_cases hk : key a = k
      · exact hk ▸ htails
      · have hother := h k
        rwa [List.filter_cons_of_neg (by simpa using hk),
          List.filter_cons_of_neg (by simpa using hk)] at hother

end Sorted

/-! ### Sorted rows -/

namespace Items

variable {items : Items} {rows : List Row} {g : Graph}

/-- Whether a row is at a place with a value. -/
def hasValue (g : Graph) (v : Value) (r : Row) : Bool := (g.valueAt r.position).toOption = some v

/-- The rows in the total order of their values; those with one value are in the order that they
had. -/
structure StablySorted (g : Graph) (rows sorted : List Row) : Prop where
  perm : sorted.Perm rows
  ascending : sorted.Pairwise fun a b => ∀ v w, g.valueAt a.position = .ok v →
    g.valueAt b.position = .ok w → v.totalLe w = true
  stable : ∀ v, sorted.filter (hasValue g v) = rows.filter (hasValue g v)

theorem hasValue_eq {r : Row} {v : Value} (h : g.valueAt r.position = .ok v) (w : Value) :
    hasValue g w r = decide (valueOr g r.position = w) := by
  simp [hasValue, valueOr, h, Except.toOption]

section Values

variable (hvalues : ∀ r ∈ rows, ∃ v, g.valueAt r.position = .ok v)

include hvalues

theorem stablySorted_mergeSort : StablySorted g rows (rows.mergeSort (rowLe g)) where
  perm := List.mergeSort_perm _ _
  ascending := by
    refine (List.pairwise_mergeSort rowLe_trans rowLe_total rows).imp ?_
    intro a b hle v w hv hw
    simpa [rowLe, valueOr, hv, hw, Except.toOption] using hle
  stable := by
    intro v
    rw [filter_mergeSort rowLe_trans rowLe_total]
    refine List.mergeSort_of_pairwise (List.pairwise_of_forall_mem_list fun a ha b hb => ?_)
    obtain ⟨ha, hav⟩ := List.mem_filter.1 ha
    obtain ⟨hb, hbv⟩ := List.mem_filter.1 hb
    obtain ⟨_, ha⟩ := hvalues a ha
    obtain ⟨_, hb⟩ := hvalues b hb
    rw [hasValue_eq ha, decide_eq_true_eq] at hav
    rw [hasValue_eq hb, decide_eq_true_eq] at hbv
    rw [rowLe, hav, hbv]
    simpa using Value.totalLe_total v v

/-- Rows can be stably sorted in one way only. -/
theorem StablySorted.unique {l l' : List Row} (h : StablySorted g rows l)
    (h' : StablySorted g rows l') : l = l' := by
  have ascends {l : List Row} (h : StablySorted g rows l) :
      l.Pairwise fun a b => (valueOr g a.position).totalLe (valueOr g b.position) = true := by
    refine h.ascending.imp_of_mem fun {a b} ha hb hle => ?_
    obtain ⟨v, hv⟩ := hvalues a (h.perm.mem_iff.1 ha)
    obtain ⟨w, hw⟩ := hvalues b (h.perm.mem_iff.1 hb)
    simpa [valueOr, hv, hw, Except.toOption] using hle v w hv hw
  have filter_eq {l : List Row} (h : StablySorted g rows l) (v : Value) :
      l.filter (fun r => valueOr g r.position = v) = rows.filter (hasValue g v) := by
    rw [← h.stable v]
    refine List.filter_congr fun r hr => ?_
    obtain ⟨w, hw⟩ := hvalues r (h.perm.mem_iff.1 hr)
    rw [hasValue_eq hw]
  exact eq_of_filter_eq (fun _ _ => Value.totalLe_antisymm) (ascends h) (ascends h') fun v =>
    (filter_eq h v).trans (filter_eq h' v).symm

end Values

/-! ### One error or all results -/

/-- What an operator makes of some items: of an error that and nothing else, otherwise rows that
stand in a given relation to the rows among the items. -/
def AllOrNothing (error? : Option QueryError) (Result : List Row → List Row → Prop)
    (before after : Items) : Prop :=
  match error? with
  | some e => after.toList = [.error e]
  | none => ∃ rows results, Lists before rows ∧ Lists after results ∧ Result rows results

/-- The value at the place of a row. -/
def itemValue (g : Graph) (item : Item) : Except QueryError Value :=
  item.bind fun r => g.valueAt r.position

/-- What depends on all items is one error or all results, if it asks something of each item that
fails at an error, and has results where nothing fails. -/
theorem allOrNothing_drain {α : Type} {f : Item → Except QueryError α} {k : List α → Items}
    {Result : List Row → List Row → Prop} (hf : ∀ e, f (.error e) = .error e)
    (hresults : firstFailure? f items.toList = none → ∀ rows, Lists items rows →
      ∃ results, Lists (drain (items.traverse f) k) results ∧ Result rows results) :
    AllOrNothing (firstFailure? f items.toList) Result items (drain (items.traverse f) k) := by
  unfold AllOrNothing
  split
  · rename_i e h
    rw [LazyList.traverse_eq, mapM_eq_error_iff.2 h, drain, LazyList.toList_ofList]
  · rename_i h
    obtain ⟨rows, hrows⟩ : ∃ rows, Lists items rows := by
      refine exists_lists fun e he => ?_
      have hnone := List.findSome?_eq_none_iff.1 h _ he
      simp [hf, failure?] at hnone
    obtain ⟨results, hlists, hresult⟩ := hresults h rows hrows
    exact ⟨rows, results, hrows, hlists, hresult⟩

theorem allOrNothing_unique (items : Items) :
    AllOrNothing (firstFailure? id items.toList) (FirstSeen fun r : Row => some r.position) items
      (unique items) :=
  allOrNothing_drain (fun _ => rfl) fun _ rows hrows =>
    ⟨_, lists_unique hrows, firstSeen_eraseDupsBy rows⟩

/-- One row, without tags and trail, at the number of the rows, as long as that fits. -/
structure Counted (rows counted : List Row) : Prop where
  counted : counted =
    [{ position := .computed (.int (.ofNat rows.length)), tags := .empty, trail := [] }]
  toInt : rows.length < 2 ^ 63 → (Int64.ofNat rows.length).toInt = rows.length

theorem allOrNothing_count (items : Items) :
    AllOrNothing (firstFailure? id items.toList) Counted items (count items) := by
  refine allOrNothing_drain (fun _ => rfl) fun _ rows hrows => ⟨_, ?_, rfl, ?_⟩
  · rw [show items.traverse id = .ok rows from rows?_eq_ok.2 hrows, drain, lists_ofRows_iff]
  · exact fun hlt => Int64.toInt_ofNat_of_lt hlt

theorem exists_value_of_firstFailure (h : firstFailure? (itemValue g) items.toList = none)
    (hrows : Lists items rows) : ∀ r ∈ rows, ∃ v, g.valueAt r.position = .ok v := by
  intro r hr
  have hnone := List.findSome?_eq_none_iff.1 h _ (hrows.mem_iff.2 hr)
  cases hv : g.valueAt r.position with
  | error e => simp [itemValue, Except.bind, hv, failure?] at hnone
  | ok v => exact ⟨v, rfl⟩

/-- Looking up the value of a row before sorting fails as looking it up by itself does. -/
theorem failure?_withValue (item : Item) :
    failure? (withValue g item) = failure? (itemValue g item) := by
  cases item with
  | error e => rfl
  | ok r =>
    cases hv : g.valueAt r.position <;>
      simp [withValue, itemValue, hv, failure?, bind, Except.bind, pure, Except.pure]

theorem allOrNothing_order (g : Graph) (items : Items) :
    AllOrNothing (firstFailure? (itemValue g) items.toList)
      (fun rows sorted => ∀ l, StablySorted g rows l ↔ l = sorted) items (order g items) := by
  rw [← firstFailure?_congr failure?_withValue]
  refine allOrNothing_drain (fun _ => rfl) fun h rows hrows => ?_
  rw [firstFailure?_congr failure?_withValue] at h
  have hvalues := exists_value_of_firstFailure h hrows
  have hsorted := stablySorted_mergeSort hvalues
  refine ⟨_, lists_order hrows hvalues, fun l => ⟨fun hl => hl.unique hvalues hsorted, ?_⟩⟩
  rintro rfl
  exact hsorted

end Items

namespace Plan

open Items

/-- **What needs all rows yields all its results or one error.** If the items of any plan have an
error, the first one is the only item of what keeps the first row at each place and of what counts
the rows; for sorting, the same goes for the first item that is an error or whose value is not
found. Otherwise the plan has rows, and there are: of each place the first row at it, in the order
in which the places first appear; one row at the number of rows; and the one stable sorting of the
rows by the total order of their values. -/
theorem allOrNothing_breakers (g : Graph) (p : Plan) (anchors : Anchors) :
    AllOrNothing (firstFailure? id (p.items g anchors).toList)
      (FirstSeen fun r : Row => some r.position) (p.items g anchors)
      ((unique p).items g anchors) ∧
    AllOrNothing (firstFailure? id (p.items g anchors).toList) Counted (p.items g anchors)
      ((count p).items g anchors) ∧
    AllOrNothing (firstFailure? (itemValue g) (p.items g anchors).toList)
      (fun rows sorted => ∀ l, StablySorted g rows l ↔ l = sorted) (p.items g anchors)
      ((order p).items g anchors) := by
  rw [items, items, items]
  exact ⟨allOrNothing_unique _, allOrNothing_count _, allOrNothing_order g _⟩

/-- A store in which Alice and Carol have one age, and Alice likes someone without a name. -/
def agesAndLikes : QuadStore :=
  .ofQuads [{ subject := .iri "alice", predicate := .iri "age", object := .int 7 },
    { subject := .iri "alice", predicate := .iri "likes", object := .blank "someone" },
    { subject := .iri "carol", predicate := .iri "age", object := .int 7 }]

/-- What is at the end of an edge. -/
def endsOfAll : Plan := .hop .forward .allNodes .allNodes

/-- Sorting leaves the two rows at one age in the order that they had. Where the ends are compared
with a number, the count is an error, although there are rows before it and after it. -/
theorem allOrNothing_breakers_ages :
    (∃ sorted, ((order endsOfAll).items agesAndLikes.graph []).Lists sorted ∧
      sorted.filter (hasValue agesAndLikes.graph (.int 7)) =
        [.moveTo (.atNode 0) 2, .moveTo (.atNode 5) 2]) ∧
    ((count (.compare .lessThan endsOfAll (.int 8))).items agesAndLikes.graph []).toList =
      [.error (.typeMismatch ⟨.lessThan, false, .blank "someone"⟩)] := by
  have hends : (endsOfAll.items agesAndLikes.graph []).Lists
      [.moveTo (.atNode 0) 2, .moveTo (.atNode 0) 4, .moveTo (.atNode 5) 2] :=
    eq_map_ok_of_toOption (by decide +kernel)
  have hvalues : firstFailure? (itemValue agesAndLikes.graph)
      (endsOfAll.items agesAndLikes.graph []).toList = none := by decide +kernel
  have hfailure : firstFailure? id ((Plan.compare .lessThan endsOfAll (.int 8)).items
      agesAndLikes.graph []).toList =
        some (.typeMismatch ⟨.lessThan, false, .blank "someone"⟩) := by
    decide +kernel
  constructor
  · obtain ⟨-, -, horder⟩ := allOrNothing_breakers agesAndLikes.graph endsOfAll []
    unfold AllOrNothing at horder
    rw [hvalues] at horder
    obtain ⟨rows, sorted, hrows, hsorted, hone⟩ := horder
    obtain rfl := map_ok_inj.1 (hrows.symm.trans hends)
    refine ⟨sorted, hsorted, ?_⟩
    rw [((hone sorted).2 rfl).stable]
    decide +kernel
  · obtain ⟨-, hcount, -⟩ := allOrNothing_breakers agesAndLikes.graph
      (.compare .lessThan endsOfAll (.int 8)) []
    unfold AllOrNothing at hcount
    rwa [hfailure] at hcount

end Plan

end QuadWalk
