import QuadWalk.Plan.Basic

/-!
# Plans as text

A plan is shown as a tree, one operator a line, its origin below it and further to the right,
followed by its other plans under a heading. Operators that need all rows of their origin are
marked.
-/

namespace QuadWalk.Plan

/-- The text of one operator. -/
def label : Plan → String
  | fixed values => "fixed [" ++ String.intercalate ", " (values.map Value.display) ++ "]"
  | allNodes => "all nodes"
  | anchor id => "anchor #" ++ Numeral.ofNat id
  | hop t _ _ => "hop " ++ t.name
  | predicates d _ => "predicates " ++ d.name
  | save d _ v name => "save " ++ v.display ++ " " ++ d.name ++ " as " ++ name
  | savePredicates d _ name => "save predicates " ++ d.name ++ " as " ++ name
  | has d _ _ values => "has " ++ d.name ++ " in " ++ Numeral.ofNat values.length ++ " values"
  | isOneOf _ values => "is one of " ++ Numeral.ofNat values.length ++ " values"
  | filter _ m => m.filter.describe
  | compare c _ v => c.name ++ " " ++ v.display
  | back _ => "back"
  | backTo _ name => "back to " ++ name
  | tag _ name => "tag " ++ name
  | union _ _ => "union"
  | intersect _ _ => "intersect"
  | difference _ _ => "difference"
  | whereAll _ id _ => "where (anchor #" ++ Numeral.ofNat id ++ ")"
  | optional _ id _ => "optional (anchor #" ++ Numeral.ofNat id ++ ")"
  | limit _ n => "limit " ++ Numeral.ofNat n
  | skip _ n => "skip " ++ Numeral.ofNat n
  | unique _ => "unique"
  | order _ => "order"
  | count _ => "count"

/-- A line that is moved to the right by some steps of two blanks. -/
def indented (depth : Nat) (text : String) : String :=
  String.ofList (List.replicate (2 * depth) ' ') ++ text

/-- The line of one operator. -/
def line (depth : Nat) (p : Plan) : String :=
  indented depth (p.label ++ if p.isBreaker then " [breaker]" else "")

mutual

/-- The lines of a plan. -/
def lines (depth : Nat) : Plan → List String
  | fixed values => [line depth (fixed values)]
  | allNodes => [line depth allNodes]
  | anchor id => [line depth (anchor id)]
  | hop t p via =>
    line depth (hop t p via) :: p.lines (depth + 1) ++
      indented (depth + 1) "via:" :: via.lines (depth + 2)
  | predicates d p => line depth (predicates d p) :: p.lines (depth + 1)
  | save d p v t => line depth (save d p v t) :: p.lines (depth + 1)
  | savePredicates d p t => line depth (savePredicates d p t) :: p.lines (depth + 1)
  | has d p via vs =>
    line depth (has d p via vs) :: p.lines (depth + 1) ++
      indented (depth + 1) "via:" :: via.lines (depth + 2)
  | isOneOf p vs => line depth (isOneOf p vs) :: p.lines (depth + 1)
  | filter p m => line depth (filter p m) :: p.lines (depth + 1)
  | compare c p v => line depth (compare c p v) :: p.lines (depth + 1)
  | back p => line depth (back p) :: p.lines (depth + 1)
  | backTo p t => line depth (backTo p t) :: p.lines (depth + 1)
  | tag p t => line depth (tag p t) :: p.lines (depth + 1)
  | union p bs => line depth (union p bs) :: p.lines (depth + 1) ++ branchLines depth bs
  | intersect p bs => line depth (intersect p bs) :: p.lines (depth + 1) ++ branchLines depth bs
  | difference p bs => line depth (difference p bs) :: p.lines (depth + 1) ++ branchLines depth bs
  | whereAll p a bs => line depth (whereAll p a bs) :: p.lines (depth + 1) ++ branchLines depth bs
  | optional p a b =>
    line depth (optional p a b) :: p.lines (depth + 1) ++
      indented (depth + 1) "branch:" :: b.lines (depth + 2)
  | limit p n => line depth (limit p n) :: p.lines (depth + 1)
  | skip p n => line depth (skip p n) :: p.lines (depth + 1)
  | unique p => line depth (unique p) :: p.lines (depth + 1)
  | order p => line depth (order p) :: p.lines (depth + 1)
  | count p => line depth (count p) :: p.lines (depth + 1)

/-- The lines of the branches of an operator. -/
def branchLines (depth : Nat) : List Plan → List String
  | [] => []
  | b :: bs => indented (depth + 1) "branch:" :: b.lines (depth + 2) ++ branchLines depth bs

end

/-- The text of a plan, each line ended by a line feed. -/
def explain (p : Plan) : String := String.join ((p.lines 0).map (· ++ "\n"))

end QuadWalk.Plan
