import QuadWalk.Proofs.Planning
import QuadWalk.Proofs.Protocol
import QuadWalk.Store.QuadStore

/-!
# A most number of results is a limit on the rows

A cursor that may give only so many results stops before it asks for one more. A limit counts rows,
errors among them, before they become results. Both come to the same (`Step.take_limited`), because
each row becomes one answer, errors stay where they are, and the first error is the last that a
cursor gives: up to there, answers and results are counted alike.

`Cursor.Ahead` relates a cursor that may give some number of results to one that may give any number
but has no more than those in front of it. One call keeps the relation and gives the same on both
sides (`Cursor.Ahead.next`), so any number of calls does.

For documents this does not hold: a document gathers any number of rows.
-/

namespace QuadWalk

/-! ### Cursors -/

namespace Cursor

variable {ε α : Type} {c d : Cursor (Feed ε α) ε}

section Next

variable (hf : c.finished = false) (hfull : c.isFull = false)

include hf hfull

theorem next_of_nil (hs : c.source () = .nil) :
    c.next pullFeed = (none, { c with source := fun _ => .nil, finished := true }) := by
  simp [Cursor.next, pullFeed, hf, hfull, hs]

theorem next_of_ok {a : α} {tail : Feed ε α} (hs : c.source () = .cons (.ok a) tail) :
    c.next pullFeed = (some (.ok a), { c with source := tail, emitted := c.emitted + 1 }) := by
  simp [Cursor.next, pullFeed, hf, hfull, hs]

theorem next_of_error {e : ε} {tail : Feed ε α} (hs : c.source () = .cons (.error e) tail) :
    c.next pullFeed =
      (some (.error e), { c with source := tail, finished := true, error := some e }) := by
  simp [Cursor.next, pullFeed, hf, hfull, hs]

end Next

/-- A result takes one place of the room. -/
theorem room_of_ok {n : Nat} {tail : Feed ε α} (h : c.room = some (n + 1)) :
    room { c with source := tail, emitted := c.emitted + 1 } = some n := by
  obtain ⟨max, hmax, hroom⟩ := Option.map_eq_some_iff.1 h
  simp only [room, hmax, Option.map_some, Option.some.injEq]
  omega

/-- The second cursor may give any number of results and has given what the first one has; as long
as they go on, it has in front of it as many items as the first one has room for. -/
structure Ahead (c d : Cursor (Feed ε α) ε) : Prop where
  unlimited : d.maxResults = none
  emitted : d.emitted = c.emitted
  finished : d.finished = c.finished
  error : d.error = c.error
  items : c.finished = false →
    ∃ n, c.room = some n ∧ (d.source ()).toList = (c.source ()).toList.take n

namespace Ahead

theorem isFull (h : Ahead c d) : d.isFull = false := by simp [Cursor.isFull, h.unlimited]

/-- Cursors that do not go on. -/
theorem of_finished (hunlimited : d.maxResults = none) (hemitted : d.emitted = c.emitted)
    (herror : d.error = c.error) (hc : c.finished = true) (hd : d.finished = true) : Ahead c d where
  unlimited := hunlimited
  emitted := hemitted
  finished := hd.trans hc.symm
  error := herror
  items := fun h => Bool.noConfusion (hc.symm.trans h)

/-- **One call gives the same of both cursors**, and they go on alike. -/
theorem next (h : Ahead c d) :
    (d.next pullFeed).1 = (c.next pullFeed).1 ∧
      Ahead (c.next pullFeed).2 (d.next pullFeed).2 := by
  cases hf : c.finished with
  | true =>
    have hc : c.next pullFeed = (none, c) := if_pos hf
    have hd : d.next pullFeed = (none, d) := if_pos (h.finished.trans hf)
    rw [hc, hd]
    exact ⟨rfl, h⟩
  | false =>
    have hf' : d.finished = false := h.finished.trans hf
    obtain ⟨n, hroom, hitems⟩ := h.items hf
    cases n with
    | zero =>
      -- there is no room left, and nothing in front of the second cursor
      have hc : c.next pullFeed = (none, { c with finished := true }) := by
        simp [Cursor.next, hf, isFull_iff.2 hroom]
      have hs : d.source () = .nil := by
        cases hs : d.source () with
        | nil => rfl
        | cons item tail => simp [hs] at hitems
      rw [hc, next_of_nil hf' h.isFull hs]
      exact ⟨rfl, .of_finished h.unlimited h.emitted h.error rfl rfl⟩
    | succ n =>
      have hfull : c.isFull = false := by
        rw [← Bool.not_eq_true, isFull_iff, hroom]
        simp
      cases hc : c.source () with
      | nil =>
        cases hs : d.source () with
        | nil =>
          rw [next_of_nil hf hfull hc, next_of_nil hf' h.isFull hs]
          exact ⟨rfl, .of_finished h.unlimited h.emitted h.error rfl rfl⟩
        | cons item tail => simp [hc, hs] at hitems
      | cons item tail =>
        cases hs : d.source () with
        | nil => simp [hc, hs] at hitems
        | cons item' tail' =>
          simp only [hc, hs, LazyList.toList_cons, List.take_succ_cons, List.cons.injEq] at hitems
          obtain ⟨rfl, htail⟩ := hitems
          cases item' with
          | ok a =>
            rw [next_of_ok hf hfull hc, next_of_ok hf' h.isFull hs]
            refine ⟨rfl, h.unlimited, congrArg (· + 1) h.emitted, h.finished, h.error, fun _ => ?_⟩
            exact ⟨n, room_of_ok hroom, htail⟩
          | error e =>
            rw [next_of_error hf hfull hc, next_of_error hf' h.isFull hs]
            exact ⟨rfl, .of_finished h.unlimited h.emitted rfl rfl rfl⟩

/-- Any number of calls gives the same of both cursors. -/
theorem take (h : Ahead c d) (calls : Nat) :
    (d.take pullFeed calls).1 = (c.take pullFeed calls).1 ∧
      Ahead (c.take pullFeed calls).2 (d.take pullFeed calls).2 := by
  induction calls generalizing c d with
  | zero => exact ⟨rfl, h⟩
  | succ calls ih =>
    obtain ⟨hgiven, hnext⟩ := h.next
    obtain ⟨hrest, hlast⟩ := ih hnext
    rw [take_succ, take_succ]
    exact ⟨by rw [hgiven, hrest], hlast⟩

/-- A cursor at its beginning, and one on a list that is cut off. -/
theorem start {feed feed' : Feed ε α} {n : Nat}
    (h : (feed' ()).toList = (feed ()).toList.take n) :
    Ahead { source := feed, maxResults := some n } { source := feed', maxResults := none } where
  unlimited := rfl
  emitted := rfl
  finished := rfl
  error := rfl
  items := fun _ => ⟨n, rfl, h⟩

end Ahead

end Cursor

/-! ### Answers -/

/-- Except for documents, each row becomes one answer, so a limit on the rows is one on the answers.
-/
theorem Graph.answers_limit (g : Graph) {shape : Shape} (h : shape ≠ .documents) (n : Nat)
    (items : Unit → Items) :
    (g.answers shape fun _ => .limit n items).toList = (g.answers shape items).toList.take n := by
  cases shape with
  | values => simp only [answers, answerEach, LazyList.toList_map, LazyList.toList_limit,
      List.map_take]
  | tags wanted => simp only [answers, answerEach, LazyList.toList_map, LazyList.toList_limit,
      List.map_take]
  | first =>
    simp only [answers, answerEach, LazyList.toList_map, LazyList.toList_limit, List.map_take,
      List.take_take, Nat.min_comm]
  | documents => exact absurd rfl h

/-! ### Queries -/

namespace Step

/-- A query with a limit right below its result shape. -/
def limited (n : Nat) : Step → Step
  | select origin wanted => select (limit origin n) wanted
  | selectFirst origin => selectFirst (limit origin n)
  | documents origin => documents (limit origin n)
  | s => limit s n

theorem shape_limited (s : Step) (n : Nat) :
    (s.limited n).shape = (limit s.shape.1 n, s.shape.2) := by
  cases s <;> rfl

variable {sizeLimit : Nat} {s : Step} {e : Bindings} {k m : Supply} {p : Planned}

/-- A limit is accepted where its origin is. -/
theorem plan_limit (h : s.plan sizeLimit e k = .ok (p, m)) (n : Nat) :
    (limit s n).plan sizeLimit e k =
      .ok (⟨m.ref (.limit p.ref.plan n), p.bindings⟩, m.afterPlan) := by
  simp only [plan, Planner.bind_eq_ok, Planner.planned_eq_ok]
  exact ⟨p, m, h, rfl, rfl⟩

/-- A query is accepted with a limit below its shape if it is without one; its plan has the limit on
top. -/
theorem prepare_limited {settings settings' : Settings} {q : PreparedQuery}
    (h : s.prepare settings = .ok q)
    (hsize : settings'.patternSizeLimit = settings.patternSizeLimit) (n : Nat) :
    (s.limited n).prepare settings' = .ok { q with plan := .limit q.plan n } := by
  obtain ⟨p, m, hp, htags, rfl⟩ := prepare_eq_ok_iff.1 h
  rw [prepare_eq_ok_iff, shape_limited, hsize]
  exact ⟨_, _, plan_limit hp n, htags, rfl⟩

/-- **A most number of results is a limit right below the result shape.** Any query that is accepted
and does not ask for documents is accepted with such a limit, too. On any graph, however often the
cursors are called, the query that may give so many results and the one with the limit, which may
give any number, give the same items, an error among them, have given equally many results, and
remember the same error. -/
theorem take_limited {s : Step} {settings : Settings} {n : Nat} {q : PreparedQuery}
    (h : s.prepare (settings.withMaxResults n) = .ok q) (hshape : q.shape ≠ .documents) :
    ∃ q', (s.limited n).prepare { settings with maxResults := none } = .ok q' ∧
      q'.shape = q.shape ∧ q'.tags = q.tags ∧
      ∀ (g : Graph) (calls : Nat),
        let capped := (q.run g (settings.withMaxResults n)).take pullFeed calls
        let limited := (q'.run g { settings with maxResults := none }).take pullFeed calls
        limited.1 = capped.1 ∧ limited.2.emitted = capped.2.emitted ∧
          limited.2.error = capped.2.error := by
  refine ⟨_, prepare_limited h rfl n, rfl, rfl, fun g calls => ?_⟩
  have hstart : Cursor.Ahead (q.run g (settings.withMaxResults n))
      (PreparedQuery.run { q with plan := .limit q.plan n } g { settings with maxResults := none }) :=
    .start (g.answers_limit hshape n fun _ => q.items g)
  obtain ⟨hgiven, hlast⟩ := hstart.take calls
  exact ⟨hgiven, hlast.emitted, hlast.error⟩

/-- The nodes that are less than eight. -/
def smallNumbers : Step := .compare .lessThan (.vertex []) (.int 8)

/-- What it is prepared to. -/
def smallNumbersQuery : PreparedQuery where
  plan := .compare .lessThan .allNodes (.int 8)
  shape := .values
  tags := []

/-- A number, and then a blank node, which cannot be compared with a number. -/
def fiveThenSomeone : QuadStore :=
  .ofQuads [{ subject := .int 5, predicate := .iri "knows", object := .blank "someone" }]

/-- Of two results that may be given, the second one is an error. -/
theorem take_limited_secondFails :
    smallNumbers.prepare (Settings.withMaxResults {} 2) = .ok smallNumbersQuery ∧
    smallNumbersQuery.shape ≠ .documents ∧
    ∃ q', (smallNumbers.limited 2).prepare {} = .ok q' ∧
      let limited := (q'.run fiveThenSomeone.graph {}).take pullFeed 3
      limited.1.map (·.bind Except.toOption) = [some (.value (.int 5)), none, none] ∧
        limited.2.error = some (.typeMismatch ⟨.lessThan, false, .blank "someone"⟩) := by
  have hprepare : smallNumbers.prepare (Settings.withMaxResults {} 2) = .ok smallNumbersQuery := rfl
  have hshape : smallNumbersQuery.shape ≠ .documents := by decide
  obtain ⟨q', hq', -, -, hsame⟩ := take_limited hprepare hshape
  obtain ⟨hgiven, -, herror⟩ := hsame fiveThenSomeone.graph 3
  let capped := (smallNumbersQuery.run fiveThenSomeone.graph
    (Settings.withMaxResults {} 2)).take pullFeed 3
  have hcapped : capped.1.map (·.bind Except.toOption) = [some (.value (.int 5)), none, none] := by
    decide +kernel
  have hfailed : capped.2.error = some (.typeMismatch ⟨.lessThan, false, .blank "someone"⟩) := by
    decide +kernel
  exact ⟨hprepare, hshape, q', hq', (congrArg _ hgiven).trans hcapped, herror.trans hfailed⟩

end Step

end QuadWalk
