/-!
# Formats of graph files

A file holds triples or quads, which the extension of its name tells.
-/

namespace QuadWalk

/-- The formats of graph files. -/
inductive RdfFormat where
  | triples
  | quads
  deriving DecidableEq

namespace RdfFormat

/-- The name of a format in messages. -/
def name : RdfFormat → String
  | triples => "N-Triples"
  | quads => "N-Quads"

/-- The parts of a path between slashes. -/
def pathParts : List Char → List (List Char)
  | [] => [[]]
  | '/' :: cs => [] :: pathParts cs
  | c :: cs =>
    match pathParts cs with
    | [] => [[c]]
    | part :: parts => (c :: part) :: parts

/-- The file name of a path: its last part, slashes at the end and steps to the same directory being
ignored. A step to the parent directory is no file name. -/
def fileName? (path : List Char) : Option (List Char) :=
  match ((pathParts path).filter fun part => part ≠ [] ∧ part ≠ ['.']).getLast? with
  | some part => if part = ['.', '.'] then none else some part
  | none => none

/-- What follows the last point of a file name, unless that is its first character. -/
def extension? (path : List Char) : Option (List Char) := do
  let name ← fileName? path
  let backward := name.reverse
  match backward.dropWhile (· ≠ '.') with
  | _ :: _ :: _ => some (backward.takeWhile (· ≠ '.')).reverse
  | _ => none

/-- The format that the name of a file tells, whatever the case of its extension. -/
def ofPath? (path : String) : Option RdfFormat := do
  let extension := String.ofList ((← extension? path.toList).map Char.toLower)
  if extension = "nt" then some triples
  else if extension = "nq" ∨ extension = "nquads" then some quads
  else none

end RdfFormat

end QuadWalk
