import QuadWalk.Pattern.Basic

/-!
# Normal forms of patterns

Patterns that are written differently may be alike. In the *normal form* of a pattern empty parts
are dropped, sequences and choices are not nested in their own kind, neighbouring texts are joined,
a choice between characters is a set, and parts with which all branches of a choice begin stand
before the choice. The size of a pattern is that of its normal form.
-/

namespace QuadWalk

/-- How a text may be read. -/
inductive Reading where
  | forward
  | backward
  deriving DecidableEq

namespace Pattern

/-- The pattern that nothing matches. -/
def nothing : Pattern := .chars CodeSet.empty

/-! ### What is known of matches -/

mutual

/-- The least length of a match. It is unknown where a set without characters takes part. -/
def leastLength? : Pattern → Option Nat
  | .empty => some 0
  | .literal text => some text.length
  | .chars s => if s.ranges.isEmpty then none else some 1
  | .look _ => some 0
  | .repeat least _ _ p => p.leastLength?.map (least * ·)
  | .capture p => p.leastLength?
  | .seq ps => (leastLengths? ps).map (·.foldl (· + ·) 0)
  | .alt ps => (leastLengths? ps).bind List.min?

/-- The least lengths of matches of several patterns. -/
def leastLengths? : List Pattern → Option (List Nat)
  | [] => some []
  | p :: ps => do
    let length ← p.leastLength?
    let lengths ← leastLengths? ps
    pure (length :: lengths)

end

mutual

/-- Whether all matches are empty. -/
def isWidthless : Pattern → Bool
  | .empty => true
  | .literal text => text.isEmpty
  | .chars _ => false
  | .look _ => true
  | .repeat _ most _ p => most.isSome && p.isWidthless
  | .capture p => p.isWidthless
  | .seq ps => areWidthless ps
  | .alt ps => areWidthless ps

/-- Whether all matches of several patterns are empty. -/
def areWidthless : List Pattern → Bool
  | [] => true
  | p :: ps => p.isWidthless && areWidthless ps

end

mutual

/-- Whether a match must begin where the text does or, backward, end where it does. -/
def isAnchored (d : Reading) : Pattern → Bool
  | .look l => l = (match d with | .forward => .start | .backward => .finish)
  | .repeat least _ _ p => 0 < least && p.isAnchored d
  | .capture p => p.isAnchored d
  | .seq ps => isAnchoredSeq d ps
  | .alt ps => areAnchored d ps
  | _ => false

/-- Whether patterns one after another are anchored: an outer part is, and none outside of it has a
width. -/
def isAnchoredSeq (d : Reading) : List Pattern → Bool
  | [] => false
  | p :: ps =>
    match d with
    | .forward => p.isAnchored d || (p.isWidthless && isAnchoredSeq d ps)
    | .backward => isAnchoredSeq d ps || (areWidthless ps && p.isAnchored d)

/-- Whether all of several patterns are anchored. -/
def areAnchored (d : Reading) : List Pattern → Bool
  | [] => true
  | p :: ps => p.isAnchored d && areAnchored d ps

end

mutual

/-- Whether a pattern has no conditions on places and no captures. -/
def isPlain : Pattern → Bool
  | .look _ => false
  | .capture _ => false
  | .repeat _ _ _ p => p.isPlain
  | .seq ps => arePlain ps
  | .alt ps => arePlain ps
  | _ => true

/-- Whether several patterns have no conditions on places and no captures. -/
def arePlain : List Pattern → Bool
  | [] => true
  | p :: ps => p.isPlain && arePlain ps

end

mutual

/-- Whether two patterns are the same. Two captures are not, even of the same pattern. -/
def same : Pattern → Pattern → Bool
  | .empty, .empty => true
  | .literal text, .literal text' => text = text'
  | .chars s, .chars s' => s = s'
  | .look l, .look l' => l = l'
  | .repeat least most short p, .repeat least' most' short' p' =>
    least = least' && most = most' && short = short' && p.same p'
  | .seq ps, .seq ps' => sameAll ps ps'
  | .alt ps, .alt ps' => sameAll ps ps'
  | _, _ => false

/-- Whether the patterns of two lists are the same, one by one. -/
def sameAll : List Pattern → List Pattern → Bool
  | [], [] => true
  | p :: ps, p' :: ps' => p.same p' && sameAll ps ps'
  | _, _ => false

end

/-! ### Normal forms of parts in normal form -/

/-- A range of codes that begins and ends with characters, which halves of surrogate pairs are not.
-/
def characterRange? (range : Nat × Nat) : Option (Nat × Nat) :=
  let isHalf (code : Nat) : Bool := 0xD800 ≤ code && code < 0xE000
  let low := if isHalf range.1 then 0xE000 else range.1
  let high := if isHalf range.2 then 0xD7FF else range.2
  if low ≤ high then some (low, high) else none

/-- One character of a set. A set of one is a text. -/
def ofSet (s : CodeSet) : Pattern :=
  match s.ranges.filterMap characterRange? with
  | [(low, high)] => if low = high then .literal [Char.ofNat low] else .chars ⟨[(low, high)]⟩
  | ranges => .chars ⟨ranges⟩

/-- A pattern again and again. Without a width, once is as good as more often. -/
def repeated (least : Nat) (most : Option Nat) (short : Bool) (p : Pattern) : Pattern :=
  let (least, most) :=
    if p.isWidthless then (min least 1, some (min (most.getD 1) 1)) else (least, most)
  if most = some 0 then .empty
  else if least = 1 ∧ most = some 1 then p
  else .repeat least most short p

/-- The patterns that a pattern is a sequence of. -/
def parts : Pattern → List Pattern
  | .empty => []
  | .seq ps => ps
  | p => [p]

/-- Joins neighbouring texts. -/
def joinTexts : List Pattern → List Pattern
  | [] => []
  | .literal text :: ps =>
    match joinTexts ps with
    | .literal more :: ps => .literal (text ++ more) :: ps
    | ps => .literal text :: ps
  | p :: ps => p :: joinTexts ps

/-- Patterns one after another. -/
def sequence (ps : List Pattern) : Pattern :=
  match joinTexts (ps.flatMap parts) with
  | [] => .empty
  | [p] => p
  | ps => .seq ps

/-- The patterns that a pattern is a choice between. -/
def branches : Pattern → List Pattern
  | .alt ps => ps
  | p => [p]

/-- The set that a choice is, if all branches are single characters or all are sets. -/
def choiceSet? (ps : List Pattern) : Option CodeSet :=
  let single? : Pattern → Option CodeSet
    | .literal [c] => some (CodeSet.singleton c)
    | _ => none
  let set? : Pattern → Option CodeSet
    | .chars s => some s
    | _ => none
  ((ps.mapM single?).or (ps.mapM set?)).map CodeSet.unions

/-- One of several patterns, which do not all begin with the same parts. -/
def choice (ps : List Pattern) : Pattern :=
  match ps.flatMap branches with
  | [] => nothing
  | [p] => p
  | ps =>
    match choiceSet? ps with
    | some s => ofSet s
    | none => .alt ps

/-- The parts with which two sequences both begin. -/
def commonParts (ps qs : List Pattern) : List Pattern :=
  ((ps.zip qs).takeWhile fun (p, q) => p.same q).map Prod.fst

/-- One of several patterns. What they all begin with is taken out if they are all sequences. -/
def alternatives (ps : List Pattern) : Pattern :=
  let sequence? : Pattern → Option (List Pattern)
    | .seq parts => some parts
    | _ => none
  match (ps.flatMap branches).mapM sequence? with
  | some (first :: others) =>
    let common := others.foldl commonParts first
    if common.isEmpty then choice ps
    else
      let rests := (first :: others).map fun parts => sequence (parts.drop common.length)
      sequence (common ++ [choice rests])
  | _ => choice ps

/-! ### Normal forms -/

mutual

/-- The normal form of a pattern. -/
def normal : Pattern → Pattern
  | .empty => .empty
  | .literal text => if text.isEmpty then .empty else .literal text
  | .chars s => ofSet s
  | .look l => .look l
  | .repeat least most short p => repeated least most short p.normal
  | .capture p => .capture p.normal
  | .seq ps => sequence (normals ps)
  | .alt ps => alternatives (normals ps)

/-- The normal forms of several patterns. -/
def normals : List Pattern → List Pattern
  | [] => []
  | p :: ps => p.normal :: normals ps

end

end Pattern

end QuadWalk
