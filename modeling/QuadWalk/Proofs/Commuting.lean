import QuadWalk.Proofs.Agreement
import QuadWalk.Proofs.FirstSeen
import QuadWalk.Store.QuadStore

/-!
# Filters, sorting and first appearances

Six steps keep rows for their places alone: they ask for the value at the place, for its edges, or
for the other rows that are there. Two steps need all rows first: one sorts them by value, the other
keeps the first one at each place. Where nothing fails, it does not matter in which order these are
done (`Plan.sameRows_exchange`), although whole rows are compared. That rows with one value keep
their order, and that rows at one place have one value, is what makes it so: a place whose rows are
sorted among others still has the same row first.

The three facts about lists come first: a stable sort commutes with filters
(`filter_mergeSort`), so do first appearances (`filter_firstsBy`), and the two commute with each
other (`firstsBy_mergeSort`).
-/

namespace QuadWalk

/-! ### Stable sorting -/

section Sorting

variable {α : Type} {le : α → α → Bool} (trans : ∀ a b c, le a b → le b c → le a c)
  (total : ∀ a b, le a b || le b a)

include trans total

/-- A new head goes before what it does not exceed, and after the rest. -/
theorem mergeSort_cons_filter (a : α) (l : List α) :
    l.mergeSort le = (l.mergeSort le).filter (fun b => !le a b) ++ (l.mergeSort le).filter (le a) ∧
      (a :: l).mergeSort le =
        (l.mergeSort le).filter (fun b => !le a b) ++ a :: (l.mergeSort le).filter (le a) := by
  obtain ⟨before, after, hcons, hrest, hbefore⟩ := List.mergeSort_cons trans total a l
  have hafter : ∀ b ∈ after, le a b = true := by
    have hsorted : ((a :: l).mergeSort le).Pairwise fun b c => le b c = true :=
      List.pairwise_mergeSort trans total _
    rw [hcons, List.pairwise_append, List.pairwise_cons] at hsorted
    exact hsorted.2.1.1
  have hless : (l.mergeSort le).filter (fun b => !le a b) = before := by
    rw [hrest, List.filter_append, List.filter_eq_self.2 hbefore, List.filter_eq_nil_iff.2,
      List.append_nil]
    intro b hb
    simp [hafter b hb]
  have hmore : (l.mergeSort le).filter (le a) = after := by
    rw [hrest, List.filter_append, List.filter_eq_self.2 hafter, List.filter_eq_nil_iff.2,
      List.nil_append]
    intro b hb
    simpa using hbefore b hb
  rw [hless, hmore]
  exact ⟨hrest, hcons⟩

/-- **Sorting commutes with filters**, since what is left keeps its order. -/
theorem filter_mergeSort (p : α → Bool) (l : List α) :
    (l.mergeSort le).filter p = (l.filter p).mergeSort le := by
  induction l with
  | nil => simp
  | cons a l ih =>
    obtain ⟨hparts, hcons⟩ := mergeSort_cons_filter trans total a l
    by_cases hp : p a = true
    · have hcons' := (mergeSort_cons_filter trans total a (l.filter p)).2
      rw [hcons, List.filter_cons_of_pos hp, hcons', ← ih, List.filter_append,
        List.filter_cons_of_pos hp, List.filter_comm p, List.filter_comm p]
    · rw [hcons, List.filter_cons_of_neg hp, ← ih, List.filter_append, List.filter_cons_of_neg hp,
        ← List.filter_append, ← hparts]

end Sorting

/-! ### First appearances -/

section Firsts

variable {α κ : Type} [BEq κ] {key : α → κ}

/-- The first element with each key. -/
def firstsBy (key : α → κ) (l : List α) : List α := l.eraseDupsBy fun a b => key a == key b

@[simp]
theorem firstsBy_nil : firstsBy key ([] : List α) = [] := rfl

/-- The head is the first with its key, and of the rest those with another key are left. -/
theorem firstsBy_cons (a : α) (l : List α) :
    firstsBy key (a :: l) = a :: firstsBy key (l.filter fun b => key b != key a) := by
  rw [firstsBy, List.eraseDupsBy_cons, firstsBy]
  refine congrArg (a :: ·) (congrArg _ (List.filter_congr fun b _ => ?_))
  cases h : key b == key a <;> simp [bne, h]

/-- To prove something of the first appearances in a list, it may be supposed of the elements whose
key is not that of the head. -/
theorem firstsBy_induction (key : α → κ) {motive : List α → Prop} (nil : motive [])
    (cons : ∀ a l, motive (l.filter fun b => key b != key a) → motive (a :: l)) :
    ∀ l, motive l :=
  eraseDupsBy_induction (fun a b => key a == key b) nil fun a l h =>
    cons a l (by simpa [bne] using h)

variable [LawfulBEq κ]

/-- **First appearances commute with filters** that look at the key only. -/
theorem filter_firstsBy {p : α → Bool} (hp : ∀ a b, key a = key b → p a = p b) (l : List α) :
    (firstsBy key l).filter p = firstsBy key (l.filter p) := by
  induction l using firstsBy_induction key with
  | nil => rfl
  | cons a l ih =>
    rw [firstsBy_cons]
    by_cases ha : p a = true
    · rw [List.filter_cons_of_pos ha, List.filter_cons_of_pos ha, firstsBy_cons, ih,
        List.filter_comm]
    · -- the elements that go with the head do not pass either
      have hall : (l.filter p).filter (fun b => key b != key a) = l.filter p := by
        refine List.filter_eq_self.2 fun b hb => ?_
        have hpb : p b = true := (List.mem_filter.1 hb).2
        simpa using fun heq : key b = key a => ha (hp b a heq ▸ hpb)
      rw [List.filter_cons_of_neg ha, List.filter_cons_of_neg ha, ih, List.filter_comm, hall]

/-- Lists without a common key have their first appearances one after the other. -/
theorem firstsBy_append {l₁ l₂ : List α} (h : ∀ a ∈ l₁, ∀ b ∈ l₂, key a ≠ key b) :
    firstsBy key (l₁ ++ l₂) = firstsBy key l₁ ++ firstsBy key l₂ := by
  have htrans : ∀ a b c, (key a == key b) = true → (key b == key c) = true →
      (key a == key c) = true := fun a b c => by simpa using Eq.trans
  have hnew : l₂.filter (isNew (fun a b => key a == key b) l₁) = l₂ := by
    refine List.filter_eq_self.2 fun b hb => isNew_eq_true.2 fun a ha => ?_
    simpa using (h a ha b hb).symm
  rw [firstsBy, eraseDupsBy_append htrans, hnew, firstsBy, firstsBy]

/-- **First appearances commute with sorting** by an order for which elements with one key are
equal. -/
theorem firstsBy_mergeSort {le : α → α → Bool} (trans : ∀ a b c, le a b → le b c → le a c)
    (total : ∀ a b, le a b || le b a) (hkey : ∀ a b c, key b = key c → le a b = le a c)
    (l : List α) : firstsBy key (l.mergeSort le) = (firstsBy key l).mergeSort le := by
  induction l using firstsBy_induction key with
  | nil => simp
  | cons a l ih =>
    let others : α → Bool := fun b => key b != key a
    have hrefl : le a a = true := by simpa using total a a
    have hne : ∀ b c, le a b = false → le a c = true → key b ≠ key c := by
      intro b c hb hc heq
      rw [hkey a b c heq, hc] at hb
      cases hb
    have hbefore : ∀ b ∈ (l.mergeSort le).filter (fun b => !le a b), le a b = false := by
      intro b hb
      simpa using (List.mem_filter.1 hb).2
    have hothers : ∀ b ∈ (l.mergeSort le).filter (fun b => !le a b), others b = true := by
      intro b hb
      simpa [others] using hne b a (hbefore b hb) hrefl
    have hdisjoint : ∀ b ∈ (l.mergeSort le).filter (fun b => !le a b),
        ∀ c ∈ a :: (l.mergeSort le).filter (le a), key b ≠ key c := by
      intro b hb c hc
      rcases List.mem_cons.1 hc with rfl | hc
      · exact hne b c (hbefore b hb) hrefl
      · exact hne b c (hbefore b hb) (List.mem_filter.1 hc).2
    -- what is sorted after the first appearance of the head has other keys
    have hrest (q : α → Bool) (hq : ∀ b c, key b = key c → q b = q c) :
        firstsBy key (((l.mergeSort le).filter q).filter others) =
          ((firstsBy key (l.filter others)).mergeSort le).filter q := by
      rw [List.filter_comm, filter_mergeSort trans total, ← filter_firstsBy hq, ih]
    have hless := hrest (fun b => !le a b) fun b c hbc => by rw [hkey a b c hbc]
    have hmore := hrest (le a) (hkey a)
    rw [List.filter_eq_self.2 hothers] at hless
    rw [(mergeSort_cons_filter trans total a l).2, firstsBy_append hdisjoint, firstsBy_cons,
      firstsBy_cons, hless, hmore, ← (mergeSort_cons_filter trans total a _).2]

end Firsts

/-! ### Operators without errors -/

namespace Items

variable {items : Items} {rows : List Row} {g : Graph}

theorem lists_unique (h : Lists items rows) :
    Lists (unique items) (firstsBy (·.position) rows) := by
  rw [unique, rows?_eq_ok.2 h, drain, lists_ofRows_iff, LazyList.toList_distinct,
    LazyList.toList_ofList]
  rfl

/-- The value at a place, where there is one. -/
def valueOr (g : Graph) (p : Position) : Value := ((g.valueAt p).toOption).getD default

/-- Whether a row may stand before another one, by the values at their places. -/
def rowLe (g : Graph) (a b : Row) : Bool :=
  (valueOr g a.position).totalLe (valueOr g b.position)

theorem rowLe_trans (a b c : Row) : rowLe g a b → rowLe g b c → rowLe g a c :=
  Std.TransCmp.isLE_trans

theorem rowLe_total (a b : Row) : rowLe g a b || rowLe g b a := Value.totalLe_total _ _

theorem rowLe_congr (a b c : Row) (h : b.position = c.position) : rowLe g a b = rowLe g a c := by
  rw [rowLe, rowLe, h]

theorem lists_order (h : Lists items rows)
    (hvalues : ∀ r ∈ rows, ∃ v, g.valueAt r.position = .ok v) :
    Lists (order g items) (rows.mergeSort (rowLe g)) := by
  let valued : List (Value × Row) := rows.map fun r => (valueOr g r.position, r)
  have htraverse : items.traverse (withValue g) = .ok valued := by
    rw [LazyList.traverse_eq, show items.toList = rows.map .ok from h, mapM_ok_iff, List.map_map,
      List.map_map]
    refine List.map_congr_left fun r hr => ?_
    obtain ⟨v, hv⟩ := hvalues r hr
    refine withValue_eq_ok.2 ⟨rfl, ?_⟩
    rw [valueOr, hv]
    rfl
  have hsorted : (valued.mergeSort fun a b => a.1.totalLe b.1).map Prod.snd =
      rows.mergeSort (rowLe g) := by
    have hrows : valued.map Prod.snd = rows := by
      rw [List.map_map]
      exact List.map_id rows
    rw [← hrows]
    refine List.map_mergeSort fun a ha b hb => ?_
    obtain ⟨r, -, rfl⟩ := List.mem_map.1 ha
    obtain ⟨r', -, rfl⟩ := List.mem_map.1 hb
    rfl
  rw [order, htraverse, drain, lists_ofRows_iff, hsorted]

end Items

/-! ### Filters -/

/-- A step that keeps rows for their places. -/
inductive PlaceFilter where
  /-- Keeps rows at one of the given values. -/
  | isOneOf (values : List Value)
  /-- Keeps rows by the text of their value. -/
  | matching (matcher : TextMatcher)
  /-- Keeps rows by the natural order of their value. -/
  | compare (comparison : Comparison) (operand : Value)
  /-- Keeps rows with an edge to one of the given values. -/
  | has (direction : Direction) (via : Plan) (values : List Value)
  /-- Keeps rows whose place occurs in every branch. -/
  | intersect (branches : List Plan)
  /-- Keeps rows whose place occurs in no branch. -/
  | difference (branches : List Plan)

namespace PlaceFilter

open Items

/-- The plan of a filter after another plan. -/
def on : PlaceFilter → Plan → Plan
  | isOneOf values, p => .isOneOf p values
  | matching m, p => .filter p m
  | compare c v, p => .compare c p v
  | has d via values, p => .has d p via values
  | intersect bs, p => .intersect p bs
  | difference bs, p => .difference p bs

/-- The plans that a filter runs besides the one that it filters. -/
def sides : PlaceFilter → List Plan
  | isOneOf _ => []
  | matching _ => []
  | compare _ _ => []
  | has _ via _ => [via]
  | intersect bs => bs
  | difference bs => bs

/-- What a filter asks of each row, once its sides have been run. -/
def test? (g : Graph) (anchors : Anchors) :
    PlaceFilter → Except QueryError (Row → Except QueryError Bool)
  | isOneOf values => .ok fun r => .ok <|
    match r.position with
    | .stored id => NodeSet.ofList (g.lookupAll values) id
    | .computed v => values.contains v
  | matching m => .ok (g.passes m)
  | compare c v => .ok (g.compares c v)
  | has d via values =>
    (nodeSet? (via.items g anchors)).map fun predicates =>
      g.reaches d predicates (.ofList (g.lookupAll values))
  | intersect bs =>
    ((Plan.itemsEach g bs anchors).mapM fun branch => positions? (branch ())).map fun sets r =>
      .ok (sets.all (·.contains r.position))
  | difference bs =>
    ((Plan.itemsEach g bs anchors).mapM fun branch => positions? (branch ())).map fun sets r =>
      .ok (!sets.any (·.contains r.position))

variable {g : Graph} {anchors : Anchors} {f f' : PlaceFilter} {rows : List Row}

theorem items_on (f : PlaceFilter) (p : Plan) : (f.on p).items g anchors =
    drain (f.test? g anchors) fun test => keep test (p.items g anchors) := by
  cases f with
  | isOneOf values => rw [on, Plan.items]; rfl
  | matching m => rw [on, Plan.items]; rfl
  | compare c v => rw [on, Plan.items]; rfl
  | has d via values =>
    rw [on, Plan.items, test?]
    cases nodeSet? (via.items g anchors) <;> rfl
  | intersect bs =>
    rw [on, Plan.items, test?, siftBy]
    cases (Plan.itemsEach g bs anchors).mapM fun branch => positions? (branch ()) <;> rfl
  | difference bs =>
    rw [on, Plan.items, test?, siftBy]
    cases (Plan.itemsEach g bs anchors).mapM fun branch => positions? (branch ()) <;> rfl

/-- A filter does not tell rows at one place apart. -/
theorem test?_congr {test : Row → Except QueryError Bool} (h : f.test? g anchors = .ok test)
    {a b : Row} (hab : a.position = b.position) : test a = test b := by
  cases f with
  | isOneOf values =>
    cases h
    simp only [hab]
  | matching m =>
    cases h
    rw [Graph.passes, Graph.passes, hab]
  | compare c v =>
    cases h
    rw [Graph.compares, Graph.compares, hab]
  | has d via values =>
    obtain ⟨predicates, -, rfl⟩ := map_ok_iff.1 h
    rw [Graph.reaches, Graph.reaches, hab]
  | intersect bs =>
    obtain ⟨sets, -, rfl⟩ := map_ok_iff.1 h
    simp only [hab]
  | difference bs =>
    obtain ⟨sets, -, rfl⟩ := map_ok_iff.1 h
    simp only [hab]

/-- Whether a filter keeps a row. -/
def keeps (g : Graph) (anchors : Anchors) (f : PlaceFilter) (r : Row) : Bool :=
  match f.test? g anchors with
  | .ok test => ((test r).toOption).getD false
  | .error _ => false

theorem keeps_congr (a b : Row) (hab : a.position = b.position) :
    f.keeps g anchors a = f.keeps g anchors b := by
  unfold keeps
  cases h : f.test? g anchors with
  | error e => rfl
  | ok test => simp only [test?_congr h hab]

theorem exists_sets {bs : List Plan}
    (h : ∀ b ∈ bs, ∃ found, (b.items g anchors).Lists found) :
    ∃ sets, ((Plan.itemsEach g bs anchors).mapM fun branch => positions? (branch ())) =
      .ok sets := by
  have hok : ∀ branch ∈ bs.map fun b (_ : Unit) => b.items g anchors,
      ∃ set, positions? (branch ()) = .ok set := by
    intro branch hbranch
    obtain ⟨b, hb, rfl⟩ := List.mem_map.1 hbranch
    obtain ⟨found, hfound⟩ := h b hb
    exact ⟨_, positions?_eq_ok hfound⟩
  obtain ⟨sets, hsets⟩ := exists_map_eq_ok hok
  exact ⟨sets, by rw [Plan.itemsEach_eq_map, mapM_ok_iff, hsets]⟩

/-- A filter whose sides do not fail has a test. -/
theorem exists_test (h : ∀ side ∈ f.sides, ∃ found, (side.items g anchors).Lists found) :
    ∃ test, f.test? g anchors = .ok test := by
  cases f with
  | isOneOf values => exact ⟨_, rfl⟩
  | matching m => exact ⟨_, rfl⟩
  | compare c v => exact ⟨_, rfl⟩
  | has d via values =>
    obtain ⟨found, hfound⟩ := h via (List.mem_singleton_self via)
    obtain ⟨predicates, hpredicates⟩ := exists_nodeSet?_eq_ok hfound
    exact ⟨_, map_ok_iff.2 ⟨predicates, hpredicates, rfl⟩⟩
  | intersect bs =>
    obtain ⟨sets, hsets⟩ := exists_sets h
    exact ⟨_, map_ok_iff.2 ⟨sets, hsets, rfl⟩⟩
  | difference bs =>
    obtain ⟨sets, hsets⟩ := exists_sets h
    exact ⟨_, map_ok_iff.2 ⟨sets, hsets, rfl⟩⟩

/-- Nothing fails where a filter is applied to some rows: neither one of its sides, nor its test of
one of the rows. -/
structure Clean (g : Graph) (anchors : Anchors) (f : PlaceFilter) (rows : List Row) : Prop where
  sides : ∀ side ∈ f.sides, ∃ found, (side.items g anchors).Lists found
  test : ∀ test, f.test? g anchors = .ok test → ∀ r ∈ rows, ∃ b, test r = .ok b

/-- Of some of these rows, a filter keeps those that it keeps one by one. -/
theorem Clean.lists_on (h : Clean g anchors f rows) {p : Plan} {chosen : List Row}
    (hp : (p.items g anchors).Lists chosen) (hchosen : ∀ r ∈ chosen, r ∈ rows) :
    ((f.on p).items g anchors).Lists (chosen.filter (f.keeps g anchors)) := by
  obtain ⟨test, htest⟩ := exists_test h.sides
  rw [items_on, htest, drain]
  refine lists_keep hp fun r hr => ?_
  obtain ⟨b, hb⟩ := h.test test htest r (hchosen r hr)
  have hkeeps : f.keeps g anchors r = b := by
    simp only [keeps, htest, hb]
    rfl
  rw [hb, hkeeps]

end PlaceFilter

/-! ### Exchanging steps -/

namespace Plan

open Items

/-- Two plans have the same rows in the same order, with the same tags and trails, and neither
fails. -/
def SameRows (g : Graph) (anchors : Anchors) (p q : Plan) : Prop :=
  ∃ rows, (p.items g anchors).Lists rows ∧ (q.items g anchors).Lists rows

section Exchange

variable {g : Graph} {anchors : Anchors} {p : Plan} {rows : List Row} {f f' : PlaceFilter}
  (hp : (p.items g anchors).Lists rows)

include hp

theorem sameRows_filter_filter (hf : f.Clean g anchors rows) (hf' : f'.Clean g anchors rows) :
    SameRows g anchors (f.on (f'.on p)) (f'.on (f.on p)) := by
  have hone := hf.lists_on hp fun r hr => hr
  have hone' := hf'.lists_on hp fun r hr => hr
  refine ⟨_, hf.lists_on hone' fun r hr => (List.mem_filter.1 hr).1, ?_⟩
  rw [List.filter_comm]
  exact hf'.lists_on hone fun r hr => (List.mem_filter.1 hr).1

theorem sameRows_filter_unique (hf : f.Clean g anchors rows) :
    SameRows g anchors (f.on (.unique p)) (.unique (f.on p)) := by
  have hunique : ((unique p).items g anchors).Lists (firstsBy (·.position) rows) := by
    rw [items]
    exact lists_unique hp
  refine ⟨_, hf.lists_on hunique fun r hr => mem_of_mem_eraseDupsBy hr, ?_⟩
  rw [items, filter_firstsBy PlaceFilter.keeps_congr]
  exact lists_unique (hf.lists_on hp fun r hr => hr)

variable (hvalues : ∀ r ∈ rows, ∃ v, g.valueAt r.position = .ok v)

include hvalues

theorem sameRows_filter_order (hf : f.Clean g anchors rows) :
    SameRows g anchors (f.on (.order p)) (.order (f.on p)) := by
  have horder : ((order p).items g anchors).Lists (rows.mergeSort (rowLe g)) := by
    rw [items]
    exact lists_order hp hvalues
  refine ⟨_, hf.lists_on horder fun r hr => List.mem_mergeSort.1 hr, ?_⟩
  rw [items, filter_mergeSort rowLe_trans rowLe_total]
  exact lists_order (hf.lists_on hp fun r hr => hr) fun r hr => hvalues r (List.mem_filter.1 hr).1

theorem sameRows_order_unique : SameRows g anchors (.order (.unique p)) (.unique (.order p)) := by
  refine ⟨(firstsBy (·.position) rows).mergeSort (rowLe g), ?_, ?_⟩
  · rw [items, items]
    exact lists_order (lists_unique hp) fun r hr => hvalues r (mem_of_mem_eraseDupsBy hr)
  · rw [items, items, ← firstsBy_mergeSort rowLe_trans rowLe_total rowLe_congr]
    exact lists_unique (lists_order hp hvalues)

end Exchange

/-- **Filters, sorting and first appearances can be exchanged.** Where a plan has rows at places
with values, and no error, the first row at each place may be taken before or after the rows are
sorted. A filter by place that does not fail there may be applied before or after either, and before
or after another such filter. It makes no difference to the rows, their order, their tags and their
trails. -/
theorem sameRows_exchange (g : Graph) (anchors : Anchors) (p : Plan) (rows : List Row)
    (hp : (p.items g anchors).Lists rows)
    (hvalues : ∀ r ∈ rows, ∃ v, g.valueAt r.position = .ok v) :
    SameRows g anchors (.order (.unique p)) (.unique (.order p)) ∧
      ∀ f : PlaceFilter, f.Clean g anchors rows →
        SameRows g anchors (f.on (.order p)) (.order (f.on p)) ∧
        SameRows g anchors (f.on (.unique p)) (.unique (f.on p)) ∧
        ∀ f' : PlaceFilter, f'.Clean g anchors rows →
          SameRows g anchors (f.on (f'.on p)) (f'.on (f.on p)) := by
  refine ⟨sameRows_order_unique hp hvalues, fun f hf => ⟨?_, ?_, fun f' hf' => ?_⟩⟩
  · exact sameRows_filter_order hp hvalues hf
  · exact sameRows_filter_unique hp hf
  · exact sameRows_filter_filter hp hf hf'

/-- A store in which one node is liked by two others. -/
def bobLikedByTwo : QuadStore :=
  .ofQuads [.ofIris "alice" "likes" "bob" "", .ofIris "carol" "likes" "bob" ""]

/-- What is at either end of an edge: Bob twice, and not with the same trail. -/
def neighborsOfAll : Plan := .hop .both .allNodes .allNodes

/-- The rows of these neighbors. -/
def neighborRows : List Row :=
  [(.moveTo (.atNode 0) 2), (.moveTo (.atNode 2) 0), (.moveTo (.atNode 2) 3),
    (.moveTo (.atNode 3) 2)]

/-- Whom Alice likes. -/
def likedByAlice : PlaceFilter := .has .backward (.fixed [.iri "likes"]) [.iri "alice"]

/-- Alice and Bob. -/
def aliceOrBob : PlaceFilter := .intersect [.fixed [.iri "alice", .iri "bob"]]

/-- The neighbors that Alice likes, and those that are Alice or Bob. -/
theorem sameRows_exchange_neighbors :
    (neighborsOfAll.items bobLikedByTwo.graph []).Lists neighborRows ∧
    (∀ r ∈ neighborRows, ∃ v, bobLikedByTwo.graph.valueAt r.position = .ok v) ∧
    likedByAlice.Clean bobLikedByTwo.graph [] neighborRows ∧
    aliceOrBob.Clean bobLikedByTwo.graph [] neighborRows ∧
    SameRows bobLikedByTwo.graph [] (.order (.unique neighborsOfAll))
      (.unique (.order neighborsOfAll)) ∧
    SameRows bobLikedByTwo.graph [] (likedByAlice.on (.order neighborsOfAll))
      (.order (likedByAlice.on neighborsOfAll)) ∧
    SameRows bobLikedByTwo.graph [] (aliceOrBob.on (.unique neighborsOfAll))
      (.unique (aliceOrBob.on neighborsOfAll)) ∧
    SameRows bobLikedByTwo.graph [] (likedByAlice.on (aliceOrBob.on neighborsOfAll))
      (aliceOrBob.on (likedByAlice.on neighborsOfAll)) := by
  have hrows : (neighborsOfAll.items bobLikedByTwo.graph []).Lists neighborRows :=
    eq_map_ok_of_toOption (by decide +kernel)
  have hvalues : ∀ r ∈ neighborRows, ∃ v, bobLikedByTwo.graph.valueAt r.position = .ok v := by
    intro r hr
    refine exists_eq_ok_of_isOk ?_
    revert r
    decide +kernel
  -- a filter with one side is clean if that has rows and the test, once evaluated, fails nowhere
  have hclean (f : PlaceFilter) (side : Plan) (found : List Row) (hsides : f.sides = [side])
      (hfound : (side.items bobLikedByTwo.graph []).Lists found)
      (htest : ∀ r ∈ neighborRows, ((f.test? bobLikedByTwo.graph []).toOption.any fun test =>
        (test r).isOk) = true) : f.Clean bobLikedByTwo.graph [] neighborRows := by
    constructor
    · rw [hsides]
      simpa using ⟨found, hfound⟩
    · intro test h r hr
      have hok := htest r hr
      rw [h] at hok
      exact exists_eq_ok_of_isOk hok
  have hf : likedByAlice.Clean bobLikedByTwo.graph [] neighborRows :=
    hclean _ _ [.atNode 1] rfl (eq_map_ok_of_toOption (by decide +kernel)) (by decide +kernel)
  have hf' : aliceOrBob.Clean bobLikedByTwo.graph [] neighborRows :=
    hclean _ _ [.atNode 0, .atNode 2] rfl (eq_map_ok_of_toOption (by decide +kernel))
      (by decide +kernel)
  obtain ⟨hbreakers, hfilters⟩ := sameRows_exchange _ [] _ _ hrows hvalues
  obtain ⟨horder, -, hother⟩ := hfilters _ hf
  obtain ⟨-, hunique, -⟩ := hfilters _ hf'
  exact ⟨hrows, hvalues, hf, hf', hbreakers, horder, hunique, hother _ hf'⟩

end Plan

end QuadWalk
