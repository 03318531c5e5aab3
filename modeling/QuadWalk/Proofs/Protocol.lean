import QuadWalk.Query.Cursor

/-!
# What a cursor gives

A cursor asks its source until the source has no more, fails, or has given as many results as may be
given. What the source answers, call by call, is `Pull.asked`; a source may go on after it failed or
had no more, and nothing is assumed of that.

Out of these answers a cursor gives the results in front, up to the most that it may give
(`Pull.results`), the error right behind them, if there is one and there was room for one more
result (`Pull.ending`), and from then on nothing (`Cursor.take_eq_protocol`).
-/

namespace QuadWalk

variable {σ ε α : Type}

/-! ### What a source answers -/

namespace Pull

/-- What a source answers when it is asked a number of times, whatever it answered before. -/
def asked (pull : Pull σ ε α) : Nat → σ → List (Option (Except ε α))
  | 0, _ => []
  | n + 1, source => (pull source).1 :: asked pull n (pull source).2

/-- The results at the beginning of some answers. -/
def leading : List (Option (Except ε α)) → List α
  | some (.ok a) :: answers => a :: leading answers
  | _ => []

/-- The results at the beginning of some answers, no more than there is room for. -/
def results (room : Option Nat) (answers : List (Option (Except ε α))) : List α :=
  match room with
  | none => leading answers
  | some n => (leading answers).take n

/-- The error that comes right after the results, if they have not used up the room. -/
def ending (room : Option Nat) (answers : List (Option (Except ε α))) : Option ε :=
  let before := (results room answers).length
  if room = some before then none
  else
    match answers[before]? with
    | some (some (.error e)) => some e
    | _ => none

section Equations

variable {room : Option Nat} {answers : List (Option (Except ε α))} {a : α} {e : ε}

@[simp]
theorem results_zero : results (some 0) answers = [] := by simp [results]

@[simp]
theorem ending_zero : ending (some 0) answers = none := by simp [ending]

@[simp]
theorem results_nil : results room ([] : List (Option (Except ε α))) = [] := by
  cases room <;> simp [results, leading]

@[simp]
theorem ending_nil : ending room ([] : List (Option (Except ε α))) = none := by simp [ending]

@[simp]
theorem results_none : results room (none :: answers) = [] := by
  cases room <;> simp [results, leading]

@[simp]
theorem ending_none : ending room (none :: answers) = none := by simp [ending]

@[simp]
theorem results_error : results room (some (.error e) :: answers) = [] := by
  cases room <;> simp [results, leading]

theorem ending_error (h : room ≠ some 0) : ending room (some (.error e) :: answers) = some e := by
  simp [ending, h]

/-- A result takes one place of the room. -/
theorem results_ok (h : room ≠ some 0) :
    results room (some (.ok a) :: answers) = a :: results (room.map (· - 1)) answers := by
  cases room with
  | none => rfl
  | some n =>
    obtain ⟨m, rfl⟩ := Nat.exists_eq_succ_of_ne_zero fun hn => h (congrArg some hn)
    simp [results, leading]

theorem ending_ok (h : room ≠ some 0) :
    ending room (some (.ok a) :: answers) = ending (room.map (· - 1)) answers := by
  have hroom (k : Nat) : room = some (k + 1) ↔ room.map (· - 1) = some k := by
    cases room with
    | none => simp
    | some n =>
      have hn : n ≠ 0 := fun hn => h (congrArg some hn)
      simp only [Option.some.injEq, Option.map_some]
      omega
  simp only [ending, results_ok h, List.length_cons, hroom, List.getElem?_cons_succ]

end Equations

end Pull

/-! ### What a cursor makes of it -/

namespace Cursor

open Pull

variable {pull : Pull σ ε α} {c : Cursor σ ε}

/-- How many results may still be given. -/
def room (c : Cursor σ ε) : Option Nat := c.maxResults.map (· - c.emitted)

theorem isFull_iff : c.isFull = true ↔ c.room = some 0 := by
  unfold isFull room
  cases c.maxResults with
  | none => simp
  | some max => simp [Nat.sub_eq_zero_iff_le]

/-- What one call of `next` does, in each of the five cases. -/
theorem next_cases (pull : Pull σ ε α) (c : Cursor σ ε) :
    (c.finished = true ∧ c.next pull = (none, c)) ∨
    (c.finished = false ∧ c.room = some 0 ∧ c.next pull = (none, { c with finished := true })) ∨
    (c.finished = false ∧ c.room ≠ some 0 ∧ ∃ source,
      (∃ a, pull c.source = (some (.ok a), source) ∧
        c.next pull = (some (.ok a), { c with source, emitted := c.emitted + 1 })) ∨
      (∃ e, pull c.source = (some (.error e), source) ∧
        c.next pull = (some (.error e), { c with source, finished := true, error := some e })) ∨
      pull c.source = (none, source) ∧
        c.next pull = (none, { c with source, finished := true })) := by
  unfold next
  by_cases hf : c.finished = true
  · exact .inl ⟨hf, by rw [if_pos hf]⟩
  have hf' : c.finished = false := by simpa using hf
  rw [if_neg hf]
  by_cases hroom : c.room = some 0
  · exact .inr (.inl ⟨hf', hroom, by rw [if_pos (isFull_iff.2 hroom)]⟩)
  refine .inr (.inr ⟨hf', hroom, (pull c.source).2, ?_⟩)
  rw [if_neg fun hfull => hroom (isFull_iff.1 hfull)]
  rcases hp : pull c.source with ⟨_ | e | a, source⟩
  · exact .inr (.inr ⟨rfl, rfl⟩)
  · exact .inr (.inl ⟨e, rfl, rfl⟩)
  · exact .inl ⟨a, rfl, rfl⟩

/-- A cursor that has stopped gives nothing and stays as it is. -/
theorem take_of_finished (h : c.finished = true) (n : Nat) :
    c.take pull n = (List.replicate n none, c) := by
  induction n with
  | zero => rfl
  | succ n ih =>
    have hnext : c.next pull = (none, c) := by rw [next, if_pos h]
    rw [take, hnext]
    simp only [ih, List.replicate_succ]

theorem take_succ (pull : Pull σ ε α) (c : Cursor σ ε) (n : Nat) :
    c.take pull (n + 1) =
      ((c.next pull).1 :: ((c.next pull).2.take pull n).1, ((c.next pull).2.take pull n).2) :=
  rfl

theorem length_take (pull : Pull σ ε α) (c : Cursor σ ε) (n : Nat) :
    (c.take pull n).1.length = n := by
  induction n generalizing c with
  | zero => rfl
  | succ n ih => rw [take_succ, List.length_cons, ih]

/-- **A cursor that has not stopped gives the results in front, then the error behind them, then
nothing.** -/
theorem exists_take_eq (hf : c.finished = false) (n : Nat) :
    ∃ idle, (c.take pull n).1 =
      (results c.room (asked pull n c.source)).map (fun a => some (.ok a)) ++
        (ending c.room (asked pull n c.source)).toList.map (fun e => some (.error e)) ++
          List.replicate idle none := by
  induction n generalizing c with
  | zero => exact ⟨0, by simp [take, asked]⟩
  | succ n ih =>
    rw [take_succ, asked]
    rcases next_cases pull c with
      ⟨hf', -⟩ | ⟨-, hroom, hnext⟩ |
        ⟨-, hroom, source, ⟨a, hp, hnext⟩ | ⟨e, hp, hnext⟩ | ⟨hp, hnext⟩⟩
    · rw [hf] at hf'
      exact absurd hf' Bool.false_ne_true
    · refine ⟨n + 1, ?_⟩
      rw [hnext, take_of_finished rfl, hroom]
      simp [List.replicate_succ]
    · -- a result was given, and the room is one smaller
      obtain ⟨idle, hidle⟩ := ih (c := { c with source, emitted := c.emitted + 1 }) hf
      have hroom' : room { c with source, emitted := c.emitted + 1 } = c.room.map (· - 1) := by
        simp [room, Function.comp_def, Nat.sub_add_eq]
      refine ⟨idle, ?_⟩
      rw [hnext, hp, results_ok hroom, ending_ok hroom]
      simp only [hidle, hroom', List.map_cons, List.cons_append]
    · refine ⟨n, ?_⟩
      rw [hnext, hp, take_of_finished rfl, results_error, ending_error hroom]
      rfl
    · refine ⟨n + 1, ?_⟩
      rw [hnext, hp, take_of_finished rfl, results_none, ending_none]
      rfl

/-! ### What a cursor knows of what it gave -/

/-- Whether a result was given. -/
def isResult : Option (Except ε α) → Bool
  | some (.ok _) => true
  | _ => false

theorem emitted_take (pull : Pull σ ε α) (c : Cursor σ ε) (n : Nat) :
    (c.take pull n).2.emitted = c.emitted + (c.take pull n).1.countP isResult := by
  induction n generalizing c with
  | zero => rfl
  | succ n ih =>
    rw [take_succ]
    simp only [ih, List.countP_cons]
    rcases next_cases pull c with
      ⟨-, hnext⟩ | ⟨-, -, hnext⟩ | ⟨-, -, source, ⟨a, -, hnext⟩ | ⟨e, -, hnext⟩ | ⟨-, hnext⟩⟩ <;>
      simp only [hnext, isResult, if_true, Bool.false_eq_true, if_false] <;> omega

/-- No cursor gives more than it may. -/
theorem emitted_take_le {max : Nat} (hmax : c.maxResults = some max) (h : c.emitted ≤ max)
    (n : Nat) : (c.take pull n).2.emitted ≤ max := by
  induction n generalizing c with
  | zero => exact h
  | succ n ih =>
    rw [take_succ]
    rcases next_cases pull c with
      ⟨-, hnext⟩ | ⟨-, -, hnext⟩ | ⟨-, hroom, source, ⟨a, -, hnext⟩ | ⟨e, -, hnext⟩ | ⟨-, hnext⟩⟩
    · rw [hnext]
      exact ih hmax h
    · rw [hnext]
      exact ih hmax h
    · have hlt : c.emitted + 1 ≤ max := by
        simp only [room, hmax, Option.map_some, ne_eq, Option.some.injEq] at hroom
        omega
      rw [hnext]
      exact ih hmax hlt
    · rw [hnext]
      exact ih hmax h
    · rw [hnext]
      exact ih hmax h

/-- A cursor has the error that it gave, and no other. -/
theorem error_take_iff (hf : c.finished = false) (herror : c.error = none) (n : Nat) (e : ε) :
    (c.take pull n).2.error = some e ↔ some (.error e) ∈ (c.take pull n).1 := by
  induction n generalizing c with
  | zero => simp [take, herror]
  | succ n ih =>
    rw [take_succ]
    rcases next_cases pull c with
      ⟨hf', -⟩ | ⟨-, -, hnext⟩ | ⟨-, -, source, ⟨a, -, hnext⟩ | ⟨e', -, hnext⟩ | ⟨-, hnext⟩⟩
    · rw [hf] at hf'
      exact absurd hf' Bool.false_ne_true
    · simp [hnext, take_of_finished, herror]
    · simpa [hnext] using ih (c := { c with source, emitted := c.emitted + 1 }) hf herror
    · simp [hnext, take_of_finished, eq_comm]
    · simp [hnext, take_of_finished, herror]

/-- Where an error stands among results, an error and nothing. -/
theorem eq_of_error_mem {results : List α} {ending : Option ε} {idle : Nat}
    {before rest : List (Option (Except ε α))} {e : ε}
    (h : results.map (fun a => some (.ok a)) ++ ending.toList.map (fun e => some (.error e)) ++
      List.replicate idle none = before ++ some (.error e) :: rest) :
    before = results.map (fun a => some (.ok a)) ∧ rest = List.replicate idle none := by
  have hidle : some (.error e) ∉ List.replicate idle (none : Option (Except ε α)) := by simp
  induction results generalizing before with
  | nil =>
    cases ending with
    | none =>
      simp only [List.map_nil, Option.toList_none, List.nil_append] at h
      exact absurd (h ▸ by simp) hidle
    | some e' =>
      cases before with
      | nil =>
        simp only [List.map_nil, Option.toList_some, List.map_cons, List.nil_append,
          List.cons_append, List.cons.injEq] at h
        exact ⟨rfl, h.2.symm⟩
      | cons b before =>
        simp only [List.map_nil, Option.toList_some, List.map_cons, List.nil_append,
          List.cons_append, List.cons.injEq] at h
        exact absurd (h.2 ▸ by simp) hidle
  | cons a results ih =>
    cases before with
    | nil => simp at h
    | cons b before =>
      simp only [List.map_cons, List.cons_append, List.cons.injEq] at h
      obtain ⟨hbefore, hrest⟩ := ih h.2
      exact ⟨by rw [← h.1, hbefore, List.map_cons], hrest⟩

/-- **The protocol of a cursor**, for any source, any number of results that may be given, and any
number of calls. What it gives is the results in front of the answers of the source, up to that
number; then the error right behind them, if there is one and the number is not yet reached; and
then nothing, however often it is asked. It knows how many results it gave, which are never too
many; it has the error that it gave, and no other; and an error comes after results only and is
followed by nothing, so that there is at most one. -/
theorem take_eq_protocol (pull : Pull σ ε α) (source : σ) (maxResults : Option Nat) (n : Nat) :
    ∃ (given : List (Option (Except ε α))) (after : Cursor σ ε) (idle : Nat),
      take pull n { source, maxResults } = (given, after) ∧ given.length = n ∧
      given =
        (results maxResults (asked pull n source)).map (fun a => some (.ok a)) ++
          (ending maxResults (asked pull n source)).toList.map (fun e => some (.error e)) ++
            List.replicate idle none ∧
      after.emitted = given.countP isResult ∧
      (∀ max, maxResults = some max → after.emitted ≤ max) ∧
      (∀ e, after.error = some e ↔ some (.error e) ∈ given) ∧
      ∀ before e rest, given = before ++ some (.error e) :: rest →
        (∀ x ∈ before, isResult x = true) ∧ ∀ x ∈ rest, x = none := by
  have hroom : room ({ source, maxResults } : Cursor σ ε) = maxResults := by
    cases maxResults <;> rfl
  obtain ⟨idle, hidle⟩ := @exists_take_eq _ _ _ pull { source, maxResults } rfl n
  rw [hroom] at hidle
  refine ⟨_, _, idle, rfl, length_take _ _ _, hidle, ?_, ?_, ?_, ?_⟩
  · rw [emitted_take, Nat.zero_add]
  · exact fun max hmax => emitted_take_le hmax (Nat.zero_le _) n
  · exact error_take_iff rfl rfl n
  · intro before e rest h
    obtain ⟨rfl, rfl⟩ := eq_of_error_mem (hidle.symm.trans h)
    refine ⟨fun x hx => ?_, fun x hx => List.eq_of_mem_replicate hx⟩
    obtain ⟨a, -, rfl⟩ := List.mem_map.1 hx
    rfl

/-- A source that reads its answers off a list. -/
def pullList : Pull (List (Option (Except ε α))) ε α
  | [] => (none, [])
  | answer :: answers => (answer, answers)

/-- A source that goes on after an error is not asked again. -/
example :
    (take (pullList (ε := String) (α := Nat)) 4
      { source := [some (.ok 1), some (.error "stop"), some (.ok 2)], maxResults := some 2 }).1 =
      [some (.ok 1), some (.error "stop"), none, none] := rfl

end Cursor

end QuadWalk
