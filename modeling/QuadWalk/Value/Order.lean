import QuadWalk.Value.Basic

/-!
# Two orders of values

The *total order* sorts results: the form of a value decides first, and within one form the parts
do. Integers and doubles are one form and are compared as numbers; of an integer and a double that
compare equal, the integer comes first.

The *natural order* answers comparison filters. It compares only values of one comparison class, and
two numbers in it may be equal without being the same value. Blank nodes and the not-a-numbers take
no part in it.
-/

namespace QuadWalk.Value

/-! ### The total order -/

/-- The place of the form of a value among the forms. -/
def rank : Value → Nat
  | iri _ => 0
  | blank _ => 1
  | string _ => 2
  | lang _ _ => 3
  | bool _ => 4
  | int _ => 5
  | float _ => 5
  | typed _ _ => 6

/-- The total order of values. -/
def totalCmp (a b : Value) : Ordering :=
  (compare a.rank b.rank).then <|
    match a, b with
    | iri s, iri t => compare s t
    | blank s, blank t => compare s t
    | string s, string t => compare s t
    | lang s l, lang t k => (compare s t).then (compare l k)
    | bool p, bool q => compare p q
    | int m, int n => compare m.toInt n.toInt
    | float x, float y => x.compareTotal y
    | int m, float y => ((Binary64.ofInt m.toInt).compareTotal y).then .lt
    | float x, int n => (x.compareTotal (Binary64.ofInt n.toInt)).then .gt
    | typed s d, typed t e => (compare d e).then (compare s t)
    | _, _ => .eq

/-- Whether the first value comes before the second or is the same. -/
def totalLe (a b : Value) : Bool := (totalCmp a b).isLE

/-- The values in ascending total order; equal values keep their order. -/
def sort (values : List Value) : List Value := values.mergeSort totalLe

/-! ### The natural order -/

/-- The classes within which values are compared. Texts are one class, in a language or not;
literals of an unknown datatype are compared with literals of the same datatype only. -/
inductive ComparisonClass where
  | iri
  | text
  | number
  | bool
  | typed (datatype : String)
  | none
  deriving DecidableEq

/-- The comparison class of a value. -/
def comparisonClass : Value → ComparisonClass
  | iri _ => .iri
  | blank _ => .none
  | string _ => .text
  | lang _ _ => .text
  | int _ => .number
  | float _ => .number
  | bool _ => .bool
  | typed _ datatype => .typed datatype

/-- Whether the value takes part in the natural order. -/
def isOrderable : Value → Bool
  | blank _ => false
  | float x => !x.isNaN
  | _ => true

/-- The double that a number is compared by. -/
def toBinary64? : Value → Option Binary64
  | int n => some (Binary64.ofInt n.toInt)
  | float x => some x
  | _ => none

/-- The comparison of two values of one class. Two integers are compared exactly, an integer and a
double by the double nearest to the integer. -/
def classCmp (a b : Value) : Option Ordering :=
  match a, b with
  | iri s, iri t => some (compare s t)
  | bool p, bool q => some (compare p q)
  | typed s _, typed t _ => some (compare s t)
  | int m, int n => some (compare m.toInt n.toInt)
  | a, b =>
    match a.toBinary64?, b.toBinary64? with
    | some x, some y => x.compareReal? y
    | _, _ =>
      match a.text?, b.text? with
      | some s, some t => some (compare s t)
      | _, _ => none

/-- A value that takes no part in the natural order was compared. -/
structure NotOrderable where
  /-- The first such value of the comparison. -/
  value : Value
  deriving DecidableEq

/-- What the error says. -/
def NotOrderable.message (e : NotOrderable) : String :=
  "value " ++ e.value.display ++ " has no natural ordering"

/-- The natural order: no answer for values of different classes, an error for values that take no
part in it. -/
def naturalCmp (a b : Value) : Except NotOrderable (Option Ordering) :=
  if !a.isOrderable then .error ⟨a⟩
  else if !b.isOrderable then .error ⟨b⟩
  else if a.comparisonClass = b.comparisonClass then .ok (classCmp a b)
  else .ok none

end QuadWalk.Value
