import QuadWalk.Query.LazyList

/-!
# Cursors

A `Cursor` gives results one at a time. It stops at the first error, which it gives once and
remembers, at the end of its source, or when it has given as many results as it may; after that it
stays stopped, whatever its source would do.
-/

namespace QuadWalk

/-- A source of results: the next one, if there is one, and the source after it. -/
abbrev Pull (σ ε α : Type) := σ → Option (Except ε α) × σ

/-- A lazy list that has yet to be worked out, as a source. -/
abbrev Feed (ε α : Type) := Unit → LazyList (Except ε α)

/-- The source that gives the items of a lazy list. -/
def pullFeed {ε α : Type} : Pull (Feed ε α) ε α := fun feed =>
  match feed () with
  | .nil => (none, fun _ => .nil)
  | .cons item tail => (some item, tail)

/-- What is left of a source, and what was given so far. -/
structure Cursor (σ ε : Type) where
  source : σ
  /-- How many results may be given. -/
  maxResults : Option Nat
  /-- How many results were given. -/
  emitted : Nat := 0
  /-- Whether nothing more is given. -/
  finished : Bool := false
  /-- The error that ended the results. -/
  error : Option ε := none

namespace Cursor

variable {σ ε α : Type}

/-- Whether as many results were given as may be. -/
def isFull (c : Cursor σ ε) : Bool := c.maxResults.any (· ≤ c.emitted)

/-- The next result, and the cursor after it. -/
def next (pull : Pull σ ε α) (c : Cursor σ ε) : Option (Except ε α) × Cursor σ ε :=
  if c.finished then (none, c)
  else if c.isFull then (none, { c with finished := true })
  else
    match pull c.source with
    | (some (.ok a), source) => (some (.ok a), { c with source, emitted := c.emitted + 1 })
    | (some (.error e), source) =>
      (some (.error e), { c with source, finished := true, error := some e })
    | (none, source) => (none, { c with source, finished := true })

/-- What some calls of `next` give, and the cursor after them. -/
def take (pull : Pull σ ε α) : Nat → Cursor σ ε → List (Option (Except ε α)) × Cursor σ ε
  | 0, c => ([], c)
  | n + 1, c =>
    let (item, c) := c.next pull
    let (items, c) := take pull n c
    (item :: items, c)

end Cursor

end QuadWalk
