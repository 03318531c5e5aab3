import QuadWalk.Pattern.Basic

/-!
# Searching a text

A text of `n` characters has `n + 1` places, before, between and after them. A *mask* marks some of
the places, and `LocatedPattern.run` takes the mask of the places where a match may begin to the
mask of the places where it may end. A pattern is found in a text when a match that begins anywhere
ends somewhere. The rules by which one of several matches is preferred play no part in that.

## The model

A mask is a number whose bits are the marks, so that a step moves all marks at once. What a pattern
says about single places is settled before the search: a `LocatedPattern` is a pattern for one text,
with a mask for each of its sets of characters and each of its conditions.
-/

namespace QuadWalk

/-- Marks on the places of a text: a bit for each place, the lowest one for the first. -/
abbrev PlaceMask := Nat

/-- The mask of some marks in the order of their places. -/
def PlaceMask.ofList : List Bool → PlaceMask
  | [] => 0
  | marked :: rest => marked.toNat + 2 * ofList rest

namespace Look

/-- Whether a condition holds between two characters, of which one is missing at an end of the text.
-/
def holds (l : Look) (before after : Option Char) : Bool :=
  match l with
  | start => before.isNone
  | finish => after.isNone
  | lineStart => before.isNone || before = some '\n'
  | lineEnd => after.isNone || after = some '\n'
  | lineStartCrlf =>
    before.isNone || before = some '\n' || (before = some '\r' && after ≠ some '\n')
  | lineEndCrlf => after.isNone || after = some '\r' || (after = some '\n' && before ≠ some '\r')
  | word kind characters =>
    let left := before.any characters.mem
    let right := after.any characters.mem
    match kind with
    | .notWordBoundary => left == right
    | .wordStart => !left && right
    | .wordEnd => left && !right
    | .wordStartHalf => !left
    | .wordEndHalf => !right
    | _ => left != right

/-- For each place of a text whether a condition holds there, given the character before it. -/
def marks (l : Look) (before : Option Char) : List Char → List Bool
  | [] => [l.holds before none]
  | c :: cs => l.holds before (some c) :: marks l (some c) cs

end Look

/-- A pattern for one text. -/
inductive LocatedPattern where
  /-- The empty text. -/
  | empty
  /-- One character at one of the marked places. -/
  | chars (places : PlaceMask)
  /-- The empty text at one of the marked places. -/
  | look (places : PlaceMask)
  /-- One pattern after another. -/
  | seq (p q : LocatedPattern)
  /-- One pattern or another. -/
  | alt (p q : LocatedPattern)
  /-- A pattern at least and at most some number of times. -/
  | repeat (least most : Nat) (p : LocatedPattern)

/-- A text itself, as a pattern for a text. -/
def LocatedPattern.literal (text : List Char) : List Char → LocatedPattern
  | [] => .empty
  | c :: cs => .seq (.chars (.ofList (text.map (· = c)))) (literal text cs)

mutual

/-- A pattern for a text. No repetition needs more turns than the text has places. -/
def Pattern.locate (text : List Char) : Pattern → LocatedPattern
  | .empty => .empty
  | .literal cs => .literal text cs
  | .chars s => .chars (.ofList (text.map s.mem))
  | .look l => .look (.ofList (l.marks none text))
  | .repeat least most _ p =>
    .repeat least (most.getD (least + text.length + 1)) (p.locate text)
  | .capture p => p.locate text
  | .seq ps => Pattern.locateSeq text ps
  | .alt ps => Pattern.locateAlt text ps

/-- Patterns one after another, for a text. -/
def Pattern.locateSeq (text : List Char) : List Pattern → LocatedPattern
  | [] => .empty
  | p :: ps => .seq (p.locate text) (Pattern.locateSeq text ps)

/-- One of several patterns, for a text. Where there is none, nothing is matched anywhere. -/
def Pattern.locateAlt (text : List Char) : List Pattern → LocatedPattern
  | [] => .look 0
  | p :: ps => .alt (p.locate text) (Pattern.locateAlt text ps)

end

/-- Applies a step a number of times, or until it changes nothing. -/
def PlaceMask.iterate (step : PlaceMask → PlaceMask) : Nat → PlaceMask → PlaceMask
  | 0, mask => mask
  | times + 1, mask =>
    let after := step mask
    if after = mask then mask else iterate step times after

/-- The places where a match of the pattern may end that begins at a marked place. -/
def LocatedPattern.run : LocatedPattern → PlaceMask → PlaceMask
  | empty, mask => mask
  | chars places, mask => (mask &&& places) <<< 1
  | look places, mask => mask &&& places
  | seq p q, mask => q.run (p.run mask)
  | alt p q, mask => p.run mask ||| q.run mask
  | .repeat least most p, mask =>
    PlaceMask.iterate (fun mask => mask ||| p.run mask) (most - least)
      (PlaceMask.iterate p.run least mask)

/-- Whether the pattern matches some part of the text. -/
def Pattern.isFoundIn (p : Pattern) (text : List Char) : Bool :=
  (p.locate text).run (.ofList (List.replicate (text.length + 1) true)) ≠ 0

end QuadWalk
