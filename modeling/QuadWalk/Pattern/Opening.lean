import QuadWalk.Pattern.Normal
import QuadWalk.Text.ByteRange

/-!
# How matches open

An *opening* is a text, in bytes, with which a match may begin; it is exact if that is the whole
match. The openings of a pattern stand in the order in which their matches are preferred, and every
match has one of them. Where they are too many they are unknown. A search that knows the openings of
a pattern can skip what begins with none, and if all are exact it needs to know nothing else: then
the pattern is searched for by its *texts alone*.
-/

namespace QuadWalk

/-- A text with which matches begin. -/
structure Opening where
  bytes : List UInt8
  /-- Whether the text is the whole match. -/
  exact : Bool
  deriving DecidableEq

/-- The openings of a pattern, unless they are unknown. -/
abbrev Openings := Option (List Opening)

namespace Opening

/-- An exact opening. -/
def whole (bytes : List UInt8) : Opening := ⟨bytes, true⟩

/-- The opening of matches that go on in an unknown way. -/
def inexact (o : Opening) : Opening := { o with exact := false }

/-- The first bytes of an opening. -/
def keep (length : Nat) (o : Opening) : Opening :=
  if o.bytes.length ≤ length then o else ⟨o.bytes.take length, false⟩

/-- An opening and what follows it. -/
def append (o next : Opening) : Opening :=
  if o.exact then ⟨o.bytes ++ next.bytes, next.exact⟩ else o

/-- Joins neighbouring openings with the same bytes; they are exact if all of them are. -/
def dedup : List Opening → List Opening
  | [] => []
  | o :: os =>
    match dedup os with
    | [] => [o]
    | next :: rest =>
      if o.bytes = next.bytes then ⟨o.bytes, o.exact && next.exact⟩ :: rest else o :: next :: rest

/-- Leaves out openings that begin with an earlier one that is kept. -/
def minimize (os : List Opening) : List Opening :=
  let step (kept : List Opening) (o : Opening) : List Opening :=
    if kept.any fun earlier => earlier.bytes.isPrefixOf o.bytes then kept else o :: kept
  (os.foldl step []).reverse

/-- The bytes with which two texts both begin. -/
def commonStart : List UInt8 → List UInt8 → List UInt8
  | a :: as, b :: bs => if a = b then a :: commonStart as bs else []
  | _, _ => []

/-- The bytes with which all openings begin. -/
def common : List Opening → List UInt8
  | [] => []
  | o :: os => os.foldl (fun start o => commonStart start o.bytes) o.bytes

end Opening

namespace Openings

/-- No openings may be more than this. -/
def mostOpenings : Nat := 250

/-- No opening is longer than this. -/
def mostBytes : Nat := 100

/-- A set of more characters than this is not looked into. -/
def mostCharacters : Nat := 10

/-- No repetition is unrolled further than this. -/
def mostTurns : Nat := 10

/-- The opening of the empty text. -/
def blank : Openings := some [.whole []]

/-- Whether nothing after the openings matters: none of them is exact. -/
def isClosed (os : Openings) : Bool := (os.getD []).all (!·.exact)

/-- The openings of matches that go on in an unknown way. -/
def inexact (os : Openings) : Openings := os.map (·.map Opening.inexact)

/-- Openings that are short enough. -/
def shorten (os : Openings) : Openings := os.map (·.map (Opening.keep mostBytes))

/-- The openings of one pattern after another. -/
def cross (os next : Openings) : Openings :=
  match os, next with
  | none, _ => none
  | some os, none => unknownNext os
  | some os, some next =>
    if os.length * next.length > mostOpenings then unknownNext os
    else
      let following (o : Opening) := if o.exact then next.map o.append else [o]
      shorten (some (Opening.dedup (os.flatMap following)))
where
  /-- Openings before unknown ones. -/
  unknownNext (os : List Opening) : Openings :=
    if os.any (·.bytes.isEmpty) then none else shorten (inexact (some os))

/-- The openings of one pattern or another. -/
def union (os others : Openings) : Openings := do
  let os ← os
  let others ← others
  if os.length + others.length ≤ mostOpenings then pure (Opening.dedup (os ++ others))
  else
    let os := Opening.dedup (os.map (Opening.keep 4))
    let others := Opening.dedup (others.map (Opening.keep 4))
    if os.length + others.length ≤ mostOpenings then pure (Opening.dedup (os ++ others)) else none

/-- The openings of a pattern a number of times after some others. -/
def power (os : Openings) (next : Openings) : Nat → Openings
  | 0 => os
  | turns + 1 => if os.isClosed then os else power (os.cross next) next turns

/-- The openings of a repetition. -/
def repeated (least : Nat) (most : Option Nat) (short : Bool) (once : Openings) : Openings :=
  if least = 0 then
    let once := if most = some 1 then once else once.inexact
    if short then blank.union once else once.union blank
  else
    let all := blank.power once (min least mostTurns)
    if most = some least ∧ least ≤ mostTurns then all else all.inexact

end Openings

namespace Pattern

mutual

/-- The openings of a pattern in normal form. -/
def openings : Pattern → Openings
  | .empty => .blank
  | .literal text => Openings.shorten (some [.whole (text.flatMap String.utf8EncodeChar)])
  | .chars s =>
    if s.size ≤ Openings.mostCharacters then
      some (s.codes.map fun code => .whole (String.utf8EncodeChar (Char.ofNat code)))
    else none
  | .look _ => .blank
  | .repeat least most short p => p.openings.repeated least most short
  | .capture p => p.openings
  | .seq ps => openingsSeq .blank ps
  | .alt ps => openingsAlt (some []) ps

/-- The openings of patterns one after another, after some others. -/
def openingsSeq (before : Openings) : List Pattern → Openings
  | [] => before
  | p :: ps => if before.isClosed then before else openingsSeq (before.cross p.openings) ps

/-- Some openings and those of several patterns. -/
def openingsAlt (before : Openings) : List Pattern → Openings
  | [] => before
  | p :: ps => if before.isNone then none else openingsAlt (before.union p.openings) ps

end

end Pattern

/-! ### Searching for texts alone -/

/-- The ASCII characters that are common in texts. -/
def commonCharacters : List Char := "\n\r (),-./0129:_abcdefghilmnoprstuvxy|".toList

namespace Opening

/-- Whether few characters of a text are expected to begin with a byte. Beyond ASCII, a byte is
shared by many characters. -/
def isRare (b : UInt8) : Bool := b < 0x80 && !commonCharacters.contains (Char.ofNat b.toNat)

/-- Cuts openings to the given numbers of bytes, one after another, while there are more of them
than the number beside it. -/
def trim (os : List Opening) : List (Nat × Nat) → List Opening
  | [] => os
  | (length, most) :: attempts =>
    if os.length ≤ most then os else trim (minimize (os.map (keep length))) attempts

/-- Whether a search for the openings is a search for whole matches. The openings are cut to their
common start where it is rare or long, and where there are many to less than they are, as long as
not too little is left of them. -/
def suffice (os : List Opening) : Bool :=
  let kept := minimize os
  let start := common kept
  let cut := dedup (kept.map (keep start.length))
  if os.any (·.bytes.isEmpty) || os.isEmpty then false
  else if 1 < os.length ∧ 1 ≤ start.length ∧ start.length ≤ 3 ∧ start.head?.any isRare then
    (dedup (kept.map (keep 1))).all (·.exact)
  else
    let isFast := kept.all (·.exact) && kept.length ≤ 16
    let chosen := if 4 < start.length ∨ (1 < start.length ∧ !isFast) then cut else kept
    let trimmed := trim chosen [(5, 10), (4, 10), (3, 64), (2, 64), (1, 10)]
    let isPoor := trimmed.any (·.bytes.length ≤ 2) || 64 < trimmed.length
    chosen.all (·.exact) && (isPoor || trimmed.all (·.exact))

end Opening

/-- Whether a pattern in normal form is searched for by its texts alone. A choice between thousands
of texts is, too. -/
def Pattern.isTextsAlone (p : Pattern) : Bool :=
  let isText : Pattern → Bool
    | .literal _ => true
    | _ => false
  p.isPlain &&
    ((Openings.union (some []) p.openings).any Opening.suffice ||
      match p with
      | .alt ps => 3000 ≤ ps.length && ps.all isText
      | _ => false)

end QuadWalk
