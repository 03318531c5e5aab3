import QuadWalk.Numeric.Numeral
import QuadWalk.Pattern.Elaborate
import QuadWalk.Pattern.Match
import QuadWalk.Pattern.Reader
import QuadWalk.Pattern.Size

/-!
# Patterns from texts

A text is read as a written pattern, given its meaning, and measured. It is refused if it is no
pattern or if its size is beyond a limit.
-/

namespace QuadWalk

/-- Why a text is refused as a pattern. -/
inductive PatternError where
  /-- The text is no pattern. -/
  | malformed
  /-- The pattern is larger than the limit. -/
  | tooLarge (limit : Nat)
  deriving DecidableEq

/-- What the error says. -/
def PatternError.message : PatternError → String
  | malformed => "regex parse error:"
  | tooLarge limit => "Compiled regex exceeds size limit of " ++ Numeral.ofNat limit ++ " bytes."

/-- The pattern that a text means. -/
def Pattern.ofText? (text : List Char) : Option Pattern := do
  let e ← PatternExpr.read? text
  let (p, _) ← e.pattern? {}
  pure p

/-- The pattern that a text means, if its size is within a limit. -/
def Pattern.compile (text : List Char) (limit : Nat) : Except PatternError Pattern :=
  match Pattern.ofText? text with
  | none => .error .malformed
  | some p => if p.fits limit then .ok p else .error (.tooLarge limit)

end QuadWalk
