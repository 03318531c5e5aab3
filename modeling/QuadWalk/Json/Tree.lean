import QuadWalk.Numeric.Binary64

/-!
# JSON trees

The JSON that results are rendered as. Integers and doubles are different numbers, and an object
keeps its fields in the order in which they were put in.
-/

namespace QuadWalk

/-- A JSON value. -/
inductive Json where
  | null
  | bool (b : Bool)
  | int (n : Int)
  | float (x : Binary64)
  | string (s : String)
  | array (items : List Json)
  | object (fields : List (String × Json))
  deriving Inhabited

namespace Json

/-- The fields of an object after a field is put in: one of the same name is replaced where it
stands. -/
def put (fields : List (String × Json)) (name : String) (value : Json) : List (String × Json) :=
  match fields with
  | [] => [(name, value)]
  | (other, kept) :: rest =>
    if other = name then (name, value) :: rest else (other, kept) :: put rest name value

end Json

end QuadWalk
