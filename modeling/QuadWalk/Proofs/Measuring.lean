import QuadWalk.Pattern.Size

/-!
# Every pattern has a size

Whether a pattern fits a limit is found out by making its automata as long as there is room. This is
a threshold: every pattern has a size, and it fits exactly the limits that are not below its size
(`Pattern.exists_size`). For what is made does not depend on the room that is left, and so each
measure takes a fixed number of bytes or fails (`Automaton.Measure.Fixed`). There is one rule for
each way in which measures are put together; what a measure makes, and how much it takes, does not
matter to them.
-/

namespace QuadWalk

namespace Automaton

variable {α β γ : Type}

namespace Measure

/-- A measure takes a fixed number of bytes: it succeeds exactly if there are as many left, and what
it makes does not depend on how many more there are. -/
def Fixed (m : Measure α) : Prop :=
  ∀ states, ∃ bytes a states', ∀ left,
    m ⟨states, left⟩ = if bytes ≤ left then some (a, ⟨states', left - bytes⟩) else none

namespace Fixed

theorem pure (a : α) : Fixed (pure a) := fun states => ⟨0, a, states, fun left => by simp; rfl⟩

theorem bind {m : Measure α} {f : α → Measure β} (hm : m.Fixed) (hf : ∀ a, (f a).Fixed) :
    Fixed (m >>= f) := by
  intro states
  obtain ⟨bytes, a, states', h⟩ := hm states
  obtain ⟨bytes', b, states'', h'⟩ := hf a states'
  refine ⟨bytes + bytes', b, states'', fun left => ?_⟩
  show (m ⟨states, left⟩).bind (fun x => f x.1 x.2) = _
  rw [h]
  by_cases hle : bytes ≤ left
  · rw [if_pos hle, Option.bind_some, h']
    by_cases hle' : bytes' ≤ left - bytes
    · rw [if_pos hle', if_pos (by omega), Nat.sub_sub]
    · rw [if_neg hle', if_neg (by omega)]
  · rw [if_neg hle, if_neg (by omega), Option.bind_none]

theorem take (bytes : Nat) : (take bytes).Fixed := fun states => ⟨bytes, (), states, fun _ => rfl⟩

theorem state (more : Nat) : (state more).Fixed :=
  fun states => ⟨stateBytes + more, states, states + 1, fun _ => rfl⟩

theorem states (n : Nat) : (states n).Fixed := by
  induction n with
  | zero => exact .pure ()
  | succ n ih => exact .bind (.state 0) fun _ => ih

theorem links (n : Nat) : (links n).Fixed := .take (n * linkBytes)

theorem leave : ∀ exit, (leave exit).Fixed
  | .plain => .pure ()
  | .fork => .links 1

section Repetition

variable {part : Measure Exit} (h : part.Fixed)

include h

theorem times (before : Exit) (n : Nat) : (times part before n).Fixed := by
  induction n generalizing before with
  | zero => exact .pure before
  | succ n ih => exact .bind h fun exit => .bind (.leave before) fun _ => ih exit

theorem exactly (n : Nat) : (exactly part n).Fixed := by
  unfold Measure.exactly
  split
  · exact .bind (.states 1) fun _ => .pure _
  · exact .times h .plain n

theorem optional (before : Exit) (n : Nat) : (optional part before n).Fixed := by
  induction n generalizing before with
  | zero => exact .pure before
  | succ n ih =>
    exact .bind (.states 1) fun _ => .bind h fun exit => .bind (.leave before) fun _ =>
      .bind (.links 2) fun _ => ih exit

theorem repeated (least : Nat) (most : Option Nat) (mayBeEmpty : Bool) :
    (repeated least most mayBeEmpty part).Fixed := by
  unfold Measure.repeated
  split
  · exact .bind (.states 1) fun _ => .bind h fun exit => .bind (.states 1) fun _ =>
      .bind (.links 2) fun _ => .bind (.leave exit) fun _ => .pure _
  · split
    · exact .bind h fun exit => .bind (.states 3) fun _ => .bind (.leave exit) fun _ =>
        .bind (.links 4) fun _ => .pure _
    · exact .bind (.states 1) fun _ => .bind h fun exit => .bind (.links 1) fun _ =>
        .bind (.leave exit) fun _ => .pure _
  · exact .bind (.times h _ _) fun before => .bind h fun exit => .bind (.states 1) fun _ =>
      .bind (.leave before) fun _ => .bind (.leave exit) fun _ => .bind (.links 1) fun _ => .pure _
  · refine .bind (.exactly h _) fun before => ?_
    split
    · exact .pure before
    · exact .bind (.states 1) fun _ => .bind (.optional h _ _) fun exit =>
        .bind (.leave exit) fun _ => .pure _

end Repetition

theorem forM {f : α → Measure Unit} (hf : ∀ a, (f a).Fixed) (as : List α) : Fixed (as.forM f) := by
  induction as with
  | nil => exact .pure ()
  | cons a as ih => exact .bind (hf a) fun _ => ih

end Fixed

end Measure

open Automaton.Measure

/-! ### Sets of characters -/

/-- With whatever table it begins, what makes states with a table takes a fixed number of bytes. -/
def FixedOn (m : StateT StateTable Measure α) : Prop := ∀ table, (m.run table).Fixed

namespace FixedOn

theorem pure (a : α) : FixedOn (pure a) := fun table => .pure (a, table)

theorem bind {m : StateT StateTable Measure α} {f : α → StateT StateTable Measure β}
    (hm : FixedOn m) (hf : ∀ a, FixedOn (f a)) : FixedOn (m >>= f) :=
  fun table => .bind (hm table) fun x => hf x.1 x.2

theorem lift {m : Measure α} (hm : m.Fixed) : FixedOn (liftM m) :=
  fun table => .bind hm fun a => .pure (a, table)

theorem shared (key : List Nat) (more : Nat) : FixedOn (StateTable.shared key more) := by
  refine .bind (m := get) (fun table => .pure (table, table)) fun table => ?_
  split
  · exact .pure _
  · exact .bind (.lift (.state more)) fun state =>
      .bind (fun table => .pure ((), table.insert key state)) fun _ => .pure state

theorem mapM {f : α → StateT StateTable Measure β} (hf : ∀ a, FixedOn (f a)) (as : List α) :
    FixedOn (as.mapM f) := by
  induction as with
  | nil => exact .pure []
  | cons a as ih =>
    rw [List.mapM_cons]
    exact .bind (hf a) fun b => .bind ih fun bs => .pure (b :: bs)

theorem foldlM {f : β → α → StateT StateTable Measure β} (hf : ∀ b a, FixedOn (f b a))
    (as : List α) (b : β) : FixedOn (as.foldlM f b) := by
  induction as generalizing b with
  | nil => exact .pure b
  | cons a as ih =>
    rw [List.foldlM_cons]
    exact .bind (hf b a) ih

theorem forM {f : α → StateT StateTable Measure Unit} (hf : ∀ a, FixedOn (f a)) (as : List α) :
    FixedOn (as.forM f) := by
  induction as with
  | nil => exact .pure ()
  | cons a as ih => exact .bind (hf a) fun _ => ih

theorem shapesForward (next bytes : Nat) (shapes : List ByteShape) :
    FixedOn (shapesForward next bytes shapes) := by
  induction bytes generalizing shapes with
  | zero => exact .pure next
  | succ bytes ih =>
    unfold Automaton.shapesForward
    split
    · exact .pure next
    · exact .bind (.mapM (fun group => .bind (ih _) fun state => .pure _) _) fun key =>
        .shared _ _

theorem shapeBackward (next : Nat) (shape : ByteShape) : FixedOn (shapeBackward next shape) :=
  .foldlM (fun _ _ => .shared _ 0) shape next

end FixedOn

theorem fixed_setStates (d : Reading) (s : CodeSet) : (setStates d s).Fixed := by
  unfold setStates
  split
  · exact .bind (.state 0) fun _ => .bind (.state _) fun _ => .pure ()
  · split
    · exact .bind (.state 0) fun next => .bind (FixedOn.shapesForward next 4 _ _) fun _ => .pure ()
    · refine .bind (.state 0) fun _ => .bind (.state 0) fun next => .bind ?_ fun _ => .pure ()
      exact FixedOn.forM (fun shape => .bind (.shapeBackward next shape) fun _ =>
        .lift (.links 1)) _ _

/-! ### Choices between texts -/

theorem fixed_treeStates (bytes : Nat) (texts : List (List UInt8)) :
    (treeStates bytes texts).Fixed := by
  induction bytes generalizing texts with
  | zero => exact .pure ()
  | succ bytes ih =>
    unfold treeStates
    split
    · exact .pure ()
    · refine .bind (.forM (fun part => .bind (.forM (fun b => ih _) _) fun _ => ?_) _) fun _ =>
        .bind (.states 1) fun _ => .links _
      split
      · exact .pure ()
      · exact .states 1
      · exact .bind (.state _) fun _ => .pure ()

end Automaton

/-! ### Patterns -/

namespace Pattern

open Automaton

theorem fixed_textsStates (d : Reading) (texts : List (List UInt8)) : (textsStates d texts).Fixed :=
  .bind (.states 1) fun _ => .bind (fixed_treeStates _ _) fun _ => .pure _

mutual

/-- The states of a pattern take a fixed number of bytes. -/
theorem fixed_states (d : Reading) : ∀ p : Pattern, (p.states d).Fixed
  | .empty => .bind (.states 1) fun _ => .pure _
  | .literal _ => .bind (.states _) fun _ => .pure _
  | .chars s => .bind (fixed_setStates d s) fun _ => .pure _
  | .look _ => .bind (.states 1) fun _ => .pure _
  | .repeat _ _ _ p => .repeated (fixed_states d p) _ _ _
  | .capture p =>
    match d with
    | .forward => .bind (.states 1) fun _ => .bind (fixed_states .forward p) fun exit =>
      .bind (.states 1) fun _ => .bind (.leave exit) fun _ => .pure _
    | .backward => fixed_states .backward p
  | .seq ps => fixed_statesSeq d .plain ps
  | .alt ps => by
    unfold Pattern.states
    split
    · exact fixed_textsStates d _
    · exact .bind (fixed_statesAlt d 0 ps) fun _ => .pure _

theorem fixed_statesSeq (d : Reading) : ∀ (before : Exit) (ps : List Pattern),
    (statesSeq d before ps).Fixed
  | before, [] => .pure before
  | before, p :: ps =>
    match d with
    | .forward => .bind (fixed_states .forward p) fun exit => .bind (.leave before) fun _ =>
      fixed_statesSeq .forward exit ps
    | .backward => .bind (fixed_statesSeq .backward before ps) fun later =>
      .bind (fixed_states .backward p) fun exit => .bind (.leave later) fun _ => .pure exit

theorem fixed_statesAlt (d : Reading) : ∀ (earlier : Nat) (ps : List Pattern),
    (statesAlt d earlier ps).Fixed
  | _, [] => .pure ()
  | earlier, p :: ps => by
    unfold statesAlt
    refine .bind (fixed_states d p) fun exit => ?_
    split
    · exact .bind (.states 2) fun _ => .bind (.links 1) fun _ => .bind (.leave exit) fun _ =>
        fixed_statesAlt d _ ps
    · exact .bind (.links 1) fun _ => .bind (.leave exit) fun _ => fixed_statesAlt d _ ps

end

theorem fixed_automaton (d : Reading) (p : Pattern) : (p.automaton d).Fixed := by
  have hrest : ((Pattern.capture p).states d >>= fun exit =>
      Measure.states 1 >>= fun _ => Measure.leave exit).Fixed :=
    .bind (fixed_states d _) fun exit => .bind (.states 1) fun _ => .leave exit
  unfold automaton
  split
  · exact .bind (.states 1) fun _ => hrest
  · exact .bind (.states 2) fun _ => .bind (.state _) fun _ => .bind (.links 2) fun _ => hrest

/-- The automaton for a direction fits if there is room for a number of bytes that does not depend
on the limit. -/
theorem exists_automaton_size (d : Reading) (p : Pattern) :
    ∃ size, ∀ limit, p.automatonFits d limit = true ↔ size ≤ limit := by
  obtain ⟨size, a, states, h⟩ := fixed_automaton d p 0
  refine ⟨size, fun limit => ?_⟩
  unfold automatonFits
  rw [StateT.run, h]
  split <;> simp [*]

/-- **Every pattern has a size**, and it fits exactly if its size is within the limit. -/
theorem exists_size (p : Pattern) : ∃ size, ∀ limit, p.fits limit = true ↔ size ≤ limit := by
  obtain ⟨forward, hforward⟩ := exists_automaton_size .forward p.normal
  obtain ⟨backward, hbackward⟩ := exists_automaton_size .backward p.normal
  cases htexts : p.normal.isTextsAlone with
  | true => exact ⟨0, fun limit => by simp [fits, htexts]⟩
  | false =>
    refine ⟨max forward backward, fun limit => ?_⟩
    simp only [fits, htexts, Bool.false_or, Bool.and_eq_true, hforward, hbackward, Nat.max_le]

end Pattern

end QuadWalk
