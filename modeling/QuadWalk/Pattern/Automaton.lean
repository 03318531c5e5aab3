import QuadWalk.Pattern.Normal
import QuadWalk.Text.ByteRange
import Std.Data.HashMap

/-!
# The automata of patterns

A pattern that is not searched for by its texts alone needs two automata that read bytes, one for
each direction in which a text may be read. Here they are not built but measured: a `Measure` makes
states one after another and fails when they take more bytes than there is room for.

## The model

A state has a number, the count of the states before it. A *fork* leads to several states without
reading a byte, and each of its links takes further bytes; so a part of an automaton is told apart
by whether its end is a fork. States that lead on in the same way are shared within a set of
characters, as far as a table of limited size remembers them.
-/

namespace QuadWalk

namespace Automaton

/-- The bytes of a state. -/
def stateBytes : Nat := 32

/-- The bytes of a link from a fork. -/
def linkBytes : Nat := 4

/-- The bytes of a range of bytes that a state with several of them reads. -/
def rangeBytes : Nat := 8

/-- How many states there are, and how many bytes are left for others. -/
structure Room where
  states : Nat
  left : Nat

/-- What makes states as long as there is room. -/
abbrev Measure := StateT Room Option

/-- How a part of an automaton ends. -/
inductive Exit where
  | plain
  | fork
  deriving DecidableEq

namespace Measure

/-- Takes some bytes. -/
def take (bytes : Nat) : Measure Unit := fun room =>
  if bytes ≤ room.left then some ((), { room with left := room.left - bytes }) else none

/-- Makes a state, which may need more bytes than others, and gives its number. -/
def state (more : Nat := 0) : Measure Nat := fun room =>
  if stateBytes + more ≤ room.left then
    some (room.states, ⟨room.states + 1, room.left - (stateBytes + more)⟩)
  else none

/-- Makes a number of states. -/
def states : Nat → Measure Unit
  | 0 => pure ()
  | n + 1 => do
    let _ ← state
    states n

/-- Makes links from a fork. -/
def links (n : Nat) : Measure Unit := take (n * linkBytes)

/-- Leads on from the end of a part. -/
def leave : Exit → Measure Unit
  | .plain => pure ()
  | .fork => links 1

/-- Makes a part a number of times, one after another, after a part with a given end. -/
def times (part : Measure Exit) (before : Exit) : Nat → Measure Exit
  | 0 => pure before
  | n + 1 => do
    let exit ← part
    leave before
    times part exit n

/-- Makes a part exactly a number of times. -/
def exactly (part : Measure Exit) (n : Nat) : Measure Exit := do
  if n = 0 then
    states 1
    pure .plain
  else times part .plain n

/-- Makes a part that may be left out, a number of times; every time it may end there. -/
def optional (part : Measure Exit) (before : Exit) : Nat → Measure Exit
  | 0 => pure before
  | n + 1 => do
    states 1
    let exit ← part
    leave before
    links 2
    optional part exit n

/-- Makes a part as often as a repetition says. A part that may match the empty text, which is told
by `mayBeEmpty`, is not run through again by way of the fork before it. -/
def repeated (least : Nat) (most : Option Nat) (mayBeEmpty : Bool) (part : Measure Exit) :
    Measure Exit := do
  match least, most with
  | 0, some 1 =>
    states 1
    let exit ← part
    states 1
    links 2
    leave exit
    pure .plain
  | 0, none =>
    if mayBeEmpty then
      let exit ← part
      states 3
      leave exit
      links 4
      pure .plain
    else
      states 1
      let exit ← part
      links 1
      leave exit
      pure .fork
  | least + 1, none =>
    let before ← times part .plain least
    let exit ← part
    states 1
    leave before
    leave exit
    links 1
    pure .fork
  | least, some most =>
    let before ← exactly part least
    if most = least then pure before
    else
      states 1
      let exit ← optional part before (most - least)
      leave exit
      pure .plain

end Measure

/-! ### Sets of characters -/

/-- A table that remembers states by what they lead on with. It has a number of places; what comes
to a place where another state is remembered takes that place. -/
structure StateTable where
  size : UInt64
  places : Std.HashMap UInt64 (List Nat × Nat)

namespace StateTable

/-- A table without states. -/
def empty (size : UInt64) : StateTable := ⟨size, {}⟩

/-- The place of a key: its numbers are mixed by exclusive or and multiplication. -/
def place (t : StateTable) (key : List Nat) : UInt64 :=
  key.foldl (fun h n => (h ^^^ n.toUInt64) * 1099511628211) 14695981039346656037 % t.size

/-- The state that is remembered for a key. -/
def find? (t : StateTable) (key : List Nat) : Option Nat :=
  t.places[t.place key]?.bind fun (found, state) => if found = key then some state else none

/-- Remembers a state for a key. -/
def insert (t : StateTable) (key : List Nat) (state : Nat) : StateTable :=
  { t with places := t.places.insert (t.place key) (key, state) }

/-- The state for a key, which is made if it is not remembered. -/
def shared (key : List Nat) (more : Nat) : StateT StateTable Measure Nat := do
  match (← get).find? key with
  | some state => pure state
  | none =>
    let state ← Measure.state more
    modify (·.insert key state)
    pure state

end StateTable

/-- Makes the states that read byte shapes and then lead on to a state, the later bytes first.
Shapes with the same ranges up to a byte share the states for these. -/
def shapesForward (next : Nat) : Nat → List ByteShape → StateT StateTable Measure Nat
  | 0, _ => pure next
  | bytes + 1, shapes =>
    if shapes.all List.isEmpty then pure next
    else do
      let groups := shapes.splitBy fun s s' => s.head? = s'.head?
      let key ← groups.mapM fun group => do
        let (first, last) := (group.head?.bind List.head?).getD (0, 0)
        let state ← shapesForward next bytes (group.map List.tail)
        pure [first, last, state]
      StateTable.shared key.flatten (groups.length * rangeBytes)

/-- Makes the states that read the bytes of a shape in reverse and then lead on to a state. -/
def shapeBackward (next : Nat) (shape : ByteShape) : StateT StateTable Measure Nat :=
  shape.foldlM (fun next (first, last) => StateTable.shared [next, first, last] 0) next

/-- Makes the states that read one character of a set. -/
def setStates (d : Reading) (s : CodeSet) : Measure Unit := do
  if s.isAscii then
    let _ ← Measure.state
    let _ ← Measure.state (s.ranges.length * rangeBytes)
  else
    match d with
    | .forward =>
      let next ← Measure.state
      let _ ← (shapesForward next 4 s.byteShapes).run (.empty 10000)
    | .backward =>
      let _ ← Measure.state
      let next ← Measure.state
      let read (shape : ByteShape) : StateT StateTable Measure Unit := do
        let _ ← shapeBackward next shape
        Measure.links 1
      let _ ← (s.byteShapes.forM read).run (.empty 1000)

/-! ### Choices between texts -/

/-- The parts of a list between empty texts. Of the empty texts at the beginning one counts. -/
def betweenBlanks (texts : List (List UInt8)) : List (List (List UInt8)) :=
  let step (text : List UInt8) : List (List (List UInt8)) → List (List (List UInt8))
    | [] => [[text]]
    | part :: parts => if text.isEmpty then [] :: part :: parts else (text :: part) :: parts
  let leading := texts.takeWhile List.isEmpty
  (leading.take 1 ++ texts.drop leading.length).foldr step [[]]

/-- Makes the states of a tree of texts of no more than some length. From each place in the tree
where a text goes on, one state for each part between the texts that end there reads the next byte
of the texts of this part, and a fork leads to these states and to the end of the texts. -/
def treeStates : Nat → List (List UInt8) → Measure Unit
  | 0, _ => pure ()
  | bytes + 1, texts => do
    if texts.all List.isEmpty then return
    let parts := betweenBlanks texts
    let read (part : List (List UInt8)) : Measure Unit := do
      let firsts := (part.filterMap List.head?).eraseDups
      let rest (b : UInt8) : List (List UInt8) :=
        part.filterMap fun text => if text.head? = some b then some text.tail else none
      firsts.forM fun b => treeStates bytes (rest b)
      match firsts.length with
      | 0 => pure ()
      | 1 => Measure.states 1
      | n =>
        let _ ← Measure.state (n * rangeBytes)
    parts.forM read
    Measure.states 1
    Measure.links ((parts.filter (!·.isEmpty)).length + (parts.length - 1))

end Automaton

namespace Pattern

open Automaton

/-- The bytes of a text that a pattern is. -/
def textBytes? : Pattern → Option (List UInt8)
  | .literal text => some (text.flatMap String.utf8EncodeChar)
  | _ => none

/-- Makes the states for a choice between texts. -/
def textsStates (d : Reading) (texts : List (List UInt8)) : Measure Exit := do
  let texts := match d with
    | .forward => texts
    | .backward => texts.map List.reverse
  Measure.states 1
  treeStates (texts.foldl (fun most text => max most text.length) 0) texts
  pure .plain

mutual

/-- Makes the states for a pattern in normal form. -/
def states (d : Reading) : Pattern → Measure Exit
  | .empty => do
    Measure.states 1
    pure .plain
  | .literal text => do
    Measure.states (text.flatMap String.utf8EncodeChar).length
    pure .plain
  | .chars s => do
    setStates d s
    pure .plain
  | .look _ => do
    Measure.states 1
    pure .plain
  | .repeat least most _ p =>
    Measure.repeated least most (!p.leastLength?.any (0 < ·)) (p.states d)
  | .capture p =>
    match d with
    | .forward => do
      Measure.states 1
      let exit ← p.states d
      Measure.states 1
      Measure.leave exit
      pure .plain
    | .backward => p.states d
  | .seq ps => statesSeq d .plain ps
  | .alt ps =>
    match ps.mapM textBytes? with
    | some texts => textsStates d texts
    | none => do
      statesAlt d 0 ps
      pure .plain

/-- Makes the states for patterns one after another; forward, after a part with a given end. -/
def statesSeq (d : Reading) (before : Exit) : List Pattern → Measure Exit
  | [] => pure before
  | p :: ps =>
    match d with
    | .forward => do
      let exit ← p.states d
      Measure.leave before
      statesSeq d exit ps
    | .backward => do
      let later ← statesSeq d before ps
      let exit ← p.states d
      Measure.leave later
      pure exit

/-- Makes the states for the branches of a choice. What joins them is made when the second branch is
there. -/
def statesAlt (d : Reading) (earlier : Nat) : List Pattern → Measure Unit
  | [] => pure ()
  | p :: ps => do
    let exit ← p.states d
    if earlier = 1 then Measure.states 2
    Measure.links 1
    Measure.leave exit
    statesAlt d (earlier + 1) ps

end

/-- Makes the states of the automaton for a direction: those before a match, which read any byte
unless the pattern is anchored, those of the pattern, and the last one. Forward, the match itself is
captured, too. -/
def automaton (d : Reading) (p : Pattern) : Measure Unit := do
  if p.isAnchored d then Measure.states 1
  else
    Measure.states 2
    let _ ← Measure.state rangeBytes
    Measure.links 2
  let exit ← (Pattern.capture p).states d
  Measure.states 1
  Measure.leave exit

/-- Whether the automaton for a direction takes no more than some bytes. -/
def automatonFits (d : Reading) (p : Pattern) (limit : Nat) : Bool :=
  ((p.automaton d).run ⟨0, limit⟩).isSome

end Pattern

end QuadWalk
