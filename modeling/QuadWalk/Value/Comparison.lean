import QuadWalk.Value.Order

/-!
# Comparing values with an operand

A comparison keeps a value if it stands in the natural order as asked for. A value of another class
than the operand is not kept; a value that takes no part in the natural order is an error.
-/

namespace QuadWalk

/-- The comparisons of a value with an operand. -/
inductive Comparison where
  | lessThan
  | greaterThan
  | lessOrEqual
  | greaterOrEqual
  deriving DecidableEq

/-- A comparison met a value without a natural ordering. -/
structure Incomparable where
  comparison : Comparison
  /-- Whether the value is the operand rather than the one compared with it. -/
  isOperand : Bool
  value : Value
  deriving DecidableEq

namespace Comparison

/-- The name of a comparison in plans and messages. -/
def name : Comparison → String
  | lessThan => "LessThan"
  | greaterThan => "GreaterThan"
  | lessOrEqual => "LessThanEquals"
  | greaterOrEqual => "GreaterThanEquals"

/-- Whether a comparison holds of a value that stands in some order to the operand. -/
def accepts : Comparison → Ordering → Bool
  | lessThan, o => o.isLT
  | greaterThan, o => o.isGT
  | lessOrEqual, o => o.isLE
  | greaterOrEqual, o => o.isGE

/-- Checks that an operand takes part in the natural order. -/
def checkOperand (c : Comparison) (operand : Value) : Except Incomparable Unit :=
  if operand.isOrderable then .ok () else .error ⟨c, true, operand⟩

/-- Whether a comparison holds of a value and an operand. -/
def evaluate (c : Comparison) (v operand : Value) : Except Incomparable Bool :=
  match v.naturalCmp operand with
  | .ok (some o) => .ok (c.accepts o)
  | .ok none => .ok false
  | .error e => .error ⟨c, false, e.value⟩

end Comparison

/-- What the error says. -/
def Incomparable.message (e : Incomparable) : String :=
  "type mismatch in " ++ e.comparison.name ++ ": " ++
    (if e.isOperand then "operand " else "value ") ++ e.value.display ++ " has no natural ordering"

end QuadWalk
