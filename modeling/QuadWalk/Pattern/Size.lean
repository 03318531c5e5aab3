import QuadWalk.Pattern.Automaton
import QuadWalk.Pattern.Opening

/-!
# The size of patterns

A pattern may be refused for the size of the automata that would search for it. A pattern that is
searched for by its texts alone needs no automaton and is never too large.
-/

namespace QuadWalk.Pattern

/-- Whether what a search for the pattern needs takes no more than some bytes. -/
def fits (p : Pattern) (limit : Nat) : Bool :=
  let p := p.normal
  p.isTextsAlone || (p.automatonFits .forward limit && p.automatonFits .backward limit)

end QuadWalk.Pattern
