import QuadWalk.Proofs.Commuting
import QuadWalk.Proofs.Trails

/-!
# Walks and steps back nest

A walk leaves the place of its row on the trail, and a step back takes the last place off again; the
other operators that go row by row change neither the place nor the trail. So the place of a row and
its trail together are a stack (`Row.path`): where operators go back no more often than they have
walked (`Operator.Nested`), each row still has below it the whole stack of the row from which it
stems, whatever the operators between have tagged, joined, dropped or sorted
(`Plan.exists_path_of_stems`).

How a row stems from another one is kept step by step (`Plan.Stems`): operator by operator, there is
a row of the plan so far, made of the one before.
-/

namespace QuadWalk

open Items

/-! ### The stack of a row -/

/-- Where a row is, and under it where it was before, the last place first. -/
def Row.path (r : Row) : List Position := r.position :: r.trail

/-- The places that a row left behind, in the order in which it left them. -/
def Row.history (r : Row) : List Position := r.trail.reverse

namespace Row

variable {r r₀ : Row}

/-- A walk puts a place on the stack. -/
theorem path_moveTo (r : Row) (id : NodeId) : (r.moveTo id).path = .stored id :: r.path := rfl

/-- A step back takes one off. -/
theorem path_of_back? (h : r₀.back? = some r) : r₀.path = r₀.position :: r.path := by
  unfold back? at h
  split at h
  · cases h
  · rename_i htrail
    cases h
    rw [path, htrail]
    rfl

/-- With nothing more on its stack, a row is where the other one is and can go back as that can. -/
theorem eq_of_path_eq (h : r.path = r₀.path) : r.position = r₀.position ∧ r.trail = r₀.trail := by
  simpa [path] using h

/-- What more it has on its stack, it has left behind after the place of the other one; what is on
top is where it is. -/
theorem history_of_path {x : Position} {above : List Position}
    (h : r.path = x :: above ++ r₀.path) :
    r.history = r₀.history ++ r₀.position :: above.reverse := by
  have htrail : r.trail = above ++ r₀.path := by
    rw [path, List.cons_append, List.cons.injEq] at h
    exact h.2
  simp [history, htrail, path]

end Row

/-! ### Operators on top of a plan -/

/-- An operator that goes row by row, apart from a jump back to a tag. -/
inductive Operator where
  /-- Walks along edges. -/
  | hop (traversal : Traversal) (via : Plan)
  /-- Walks to the predicates of edges. -/
  | predicates (direction : Direction)
  /-- Goes back to where the last walk began. -/
  | back
  /-- Binds a tag to the place of each row. -/
  | tag (name : String)
  /-- Binds a tag to the values of one predicate. -/
  | save (direction : Direction) (predicate : Value) (name : String)
  /-- Binds a tag to the predicates of the edges. -/
  | savePredicates (direction : Direction) (name : String)
  /-- Keeps rows for their places. -/
  | filter (f : PlaceFilter)
  /-- Keeps the rows for which every branch has a row, with its bindings. -/
  | whereAll (anchor : AnchorId) (branches : List Plan)
  /-- Adds the bindings of a branch, if it has a row. -/
  | optional (anchor : AnchorId) (branch : Plan)
  /-- Keeps the first rows. -/
  | limit (count : Nat)
  /-- Drops the first rows. -/
  | skip (count : Nat)
  /-- Keeps the first row at each place. -/
  | unique
  /-- Sorts the rows. -/
  | order

namespace Operator

/-- The plan of an operator after another plan. -/
def on : Operator → Plan → Plan
  | hop t via, p => .hop t p via
  | predicates d, p => .predicates d p
  | back, p => .back p
  | tag name, p => .tag p name
  | save d v name, p => .save d p v name
  | savePredicates d name, p => .savePredicates d p name
  | filter f, p => f.on p
  | whereAll a bs, p => .whereAll p a bs
  | optional a b, p => .optional p a b
  | limit n, p => .limit p n
  | skip n, p => .skip p n
  | unique, p => .unique p
  | order, p => .order p

/-- Whether an operator walks. -/
def walks : Operator → Bool
  | hop _ _ | predicates _ => true
  | _ => false

/-- Whether an operator goes back. -/
def undoes : Operator → Bool
  | back => true
  | _ => false

/-- How often some operators walk. -/
def walkCount (ops : List Operator) : Nat := ops.countP walks

/-- How often they go back. -/
def undoCount (ops : List Operator) : Nat := ops.countP undoes

@[simp]
theorem walkCount_append_singleton (ops : List Operator) (op : Operator) :
    walkCount (ops ++ [op]) = walkCount ops + if op.walks then 1 else 0 := by
  rw [walkCount, List.countP_append, List.countP_singleton, walkCount]

@[simp]
theorem undoCount_append_singleton (ops : List Operator) (op : Operator) :
    undoCount (ops ++ [op]) = undoCount ops + if op.undoes then 1 else 0 := by
  rw [undoCount, List.countP_append, List.countP_singleton, undoCount]

/-- However far one follows them, the operators have gone back no more often than they have walked.
-/
def Nested (ops : List Operator) : Prop :=
  ∀ before, before <+: ops → undoCount before ≤ walkCount before

instance (ops : List Operator) : Decidable (Nested ops) :=
  decidable_of_iff (∀ before ∈ ops.inits, undoCount before ≤ walkCount before) <| by
    simp only [List.mem_inits, Nested]

variable {op : Operator} {ops : List Operator} {p : Plan}

theorem Nested.of_append {more : List Operator} (h : Nested (ops ++ more)) : Nested ops :=
  fun before hbefore => h before (hbefore.trans (List.prefix_append ops more))

theorem Nested.undoCount_le (h : Nested ops) : undoCount ops ≤ walkCount ops :=
  h ops (List.prefix_refl ops)

theorem rowOrigin_on (op : Operator) (p : Plan) : (op.on p).rowOrigin? = some p := by
  cases op with
  | filter f => cases f <;> rfl
  | _ => rfl

/-- What an operator does to the stack of a row: a walk puts a place on it, a step back takes one
off, and no other operator touches it. -/
theorem path_of_makes {r r' : Row} (h : (op.on p).Makes r r') :
    (op.walks = true ∧ op.undoes = false ∧ ∃ x, r'.path = x :: r.path) ∨
      (op.walks = false ∧ op.undoes = true ∧ ∃ x, r.path = x :: r'.path) ∨
      op.walks = false ∧ op.undoes = false ∧ r'.path = r.path := by
  have kept (hkeeps : (op.on p).keepsPlace = true) : r'.path = r.path := by
    obtain ⟨hposition, htrail⟩ := h.keeps hkeeps
    rw [Row.path, Row.path, hposition, htrail]
  cases op with
  | hop _ _ | predicates _ =>
    obtain ⟨id, rfl⟩ := h
    exact .inl ⟨rfl, rfl, _, Row.path_moveTo r id⟩
  | back => exact .inr (.inl ⟨rfl, rfl, _, Row.path_of_back? h⟩)
  | filter f => exact .inr (.inr ⟨rfl, rfl, kept (by cases f <;> rfl)⟩)
  | _ => exact .inr (.inr ⟨rfl, rfl, kept rfl⟩)

end Operator

namespace Plan

open Operator

variable {g : Graph} {anchors : Anchors} {p : Plan} {op : Operator} {ops : List Operator}
  {r r₀ : Row}

/-- The plan with some operators on top, the first one innermost. -/
def under (p : Plan) (ops : List Operator) : Plan := ops.foldl (fun p op => op.on p) p

theorem under_append_singleton (p : Plan) (ops : List Operator) (op : Operator) :
    p.under (ops ++ [op]) = op.on (p.under ops) := by
  simp [under]

/-- **A row stems from a row of a plan** through some operators: each of them has made a row of the
one before, and it is among the rows of the plan up to there. -/
inductive Stems (g : Graph) (anchors : Anchors) (p : Plan) : List Operator → Row → Row → Prop
  | start {r : Row} (h : r ∈ rows (p.items g anchors)) : Stems g anchors p [] r r
  | next {ops : List Operator} {op : Operator} {r₀ r r' : Row} (h : Stems g anchors p ops r₀ r)
      (hmakes : (op.on (p.under ops)).Makes r r')
      (hr : r' ∈ rows ((p.under (ops ++ [op])).items g anchors)) :
      Stems g anchors p (ops ++ [op]) r₀ r'

/-- Every row under which operators are stems from a row of the plan below them. -/
theorem exists_stems (hr : r ∈ rows ((p.under ops).items g anchors)) :
    ∃ r₀, Stems g anchors p ops r₀ r := by
  induction ops using List.reverseRecOn generalizing r with
  | nil => exact ⟨r, .start hr⟩
  | append_singleton ops op ih =>
    have hrow := hr
    rw [under_append_singleton, mem_rows] at hrow
    obtain ⟨before, hbefore, hmakes⟩ := exists_makes (rowOrigin_on op (p.under ops)) hrow
    obtain ⟨r₀, hstems⟩ := ih (mem_rows.2 hbefore)
    exact ⟨r₀, .next hstems hmakes hr⟩

theorem Stems.mem_rows (h : Stems g anchors p ops r₀ r) : r₀ ∈ rows (p.items g anchors) := by
  induction h with
  | start h => exact h
  | next _ _ _ ih => exact ih

/-- **A row has the stack of the row from which it stems below its own**, under as many places as
there are walks that have not been undone. -/
theorem exists_path_of_stems (h : Stems g anchors p ops r₀ r) (hnested : Nested ops) :
    ∃ above, r.path = above ++ r₀.path ∧ above.length + undoCount ops = walkCount ops := by
  induction h with
  | start _ => exact ⟨[], rfl, rfl⟩
  | @next ops op r₀ r r' _ hmakes _ ih =>
    obtain ⟨above, hpath, hcount⟩ := ih hnested.of_append
    have hbound := hnested.undoCount_le
    rcases path_of_makes hmakes with ⟨hwalks, hundoes, x, hx⟩ | ⟨hwalks, hundoes, x, hx⟩ |
      ⟨hwalks, hundoes, hsame⟩
    all_goals simp only [undoCount_append_singleton, walkCount_append_singleton, hwalks, hundoes,
      Bool.false_eq_true, if_true, if_false] at hbound ⊢
    · refine ⟨x :: above, by rw [hx, hpath, List.cons_append], ?_⟩
      rw [List.length_cons]
      omega
    · -- there is a walk to undo, so the place taken off lies above those of the row below
      cases above with
      | nil =>
        rw [List.length_nil] at hcount
        omega
      | cons y above =>
        rw [hx, List.cons_append] at hpath
        refine ⟨above, (List.cons.inj hpath).2, ?_⟩
        rw [List.length_cons] at hcount
        omega
    · exact ⟨above, hsame.trans hpath, hcount⟩

/-- Before a step back that is nested, every row can go back. -/
theorem itemForItem_back_of_nested (h : Nested (ops ++ [.back])) :
    ItemForItem Row.back? ((p.under ops).items g anchors)
      ((p.under (ops ++ [.back])).items g anchors) := by
  rw [under_append_singleton, on, items]
  refine itemForItem_change fun r hr => Row.isSome_back?.2 ?_
  obtain ⟨r₀, hstems⟩ := exists_stems hr
  obtain ⟨above, hpath, hcount⟩ := exists_path_of_stems hstems h.of_append
  have hbound := h.undoCount_le
  simp only [undoCount_append_singleton, walkCount_append_singleton, undoes, walks, if_true,
    Bool.false_eq_true, if_false] at hbound
  cases above with
  | nil =>
    rw [List.length_nil] at hcount
    omega
  | cons x above =>
    rw [(List.cons.inj hpath).2]
    simp [Row.path]

/-- **Walks and steps back nest like a stack.** Where operators on top of a plan have nowhere gone
back more often than they have walked, each row stems from a row of the plan: it has left behind
what that has left behind and then as many places as there are walks not undone, the first of them
the place of that row; if there are none, it is where that row is and has the same trail. No step
back among the operators drops a row: each row becomes exactly one. -/
theorem nested_under (g : Graph) (anchors : Anchors) (p : Plan) (ops : List Operator)
    (h : Nested ops) :
    (∀ r ∈ rows ((p.under ops).items g anchors), ∃ r₀ ∈ rows (p.items g anchors),
      Stems g anchors p ops r₀ r ∧
      (walkCount ops = undoCount ops → r.position = r₀.position ∧ r.trail = r₀.trail) ∧
      ∃ left, r.history = r₀.history ++ left ∧ left.length = walkCount ops - undoCount ops ∧
        (undoCount ops < walkCount ops → left.head? = some r₀.position)) ∧
    ∀ before after, ops = before ++ .back :: after →
      ItemForItem Row.back? ((p.under before).items g anchors)
        ((p.under (before ++ [.back])).items g anchors) := by
  refine ⟨fun r hr => ?_, fun before after hops => ?_⟩
  · obtain ⟨r₀, hstems⟩ := exists_stems hr
    obtain ⟨above, hpath, hcount⟩ := exists_path_of_stems hstems h
    refine ⟨r₀, hstems.mem_rows, hstems, ?_⟩
    cases above with
    | nil =>
      have hsame := Row.eq_of_path_eq hpath
      simp only [List.length_nil, Nat.zero_add] at hcount
      refine ⟨fun _ => hsame, [], ?_, ?_, ?_⟩
      · rw [Row.history, Row.history, hsame.2, List.append_nil]
      · simp [hcount]
      · omega
    | cons x above =>
      simp only [List.length_cons] at hcount
      refine ⟨by omega, r₀.position :: above.reverse, Row.history_of_path hpath, ?_, fun _ => rfl⟩
      simp only [List.length_cons, List.length_reverse]
      omega
  · have hback : Nested (before ++ [.back]) := by
      rw [hops, List.append_cons] at h
      exact h.of_append
    exact itemForItem_back_of_nested hback

/-- To whom is liked and knows somebody, and on to Carol if it is her. -/
def outward : List Operator :=
  [.tag "who", .hop .forward (.fixed [.iri "likes"]),
    .whereAll 0 [.hop .forward (.anchor 0) (.fixed [.iri "knows"])],
    .hop .forward (.fixed [.iri "knows"]), .filter (.isOneOf [.iri "carol"])]

/-- Two walks out and one step back leave a row at whom is liked, who likes them below. -/
theorem nested_under_outward :
    Nested (outward ++ [.back]) ∧
    (rows ((allNodes.under (outward ++ [.back])).items Step.likesWhoKnows.graph [])).map
      (fun r => (r.position, r.history)) = [(.stored 2, [.stored 0])] ∧
    (∀ r ∈ rows ((allNodes.under (outward ++ [.back])).items Step.likesWhoKnows.graph []),
      ∃ r₀ ∈ rows (allNodes.items Step.likesWhoKnows.graph []),
        Stems Step.likesWhoKnows.graph [] allNodes (outward ++ [.back]) r₀ r ∧
        ∃ left, r.history = r₀.history ++ left ∧ left.length = 1 ∧
          left.head? = some r₀.position) ∧
    ItemForItem Row.back? ((allNodes.under outward).items Step.likesWhoKnows.graph [])
      ((allNodes.under (outward ++ [.back])).items Step.likesWhoKnows.graph []) := by
  have hnested : Nested (outward ++ [.back]) := by decide
  obtain ⟨hrows, hback⟩ := nested_under Step.likesWhoKnows.graph [] allNodes _ hnested
  refine ⟨hnested, by decide +kernel, fun r hr => ?_, hback outward [] rfl⟩
  obtain ⟨r₀, hr₀, hstems, -, left, hhistory, hlength, hhead⟩ := hrows r hr
  exact ⟨r₀, hr₀, hstems, left, hhistory, hlength, hhead (by decide)⟩

end Plan

end QuadWalk
