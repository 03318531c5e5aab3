import QuadWalk.Pattern.Expr
import QuadWalk.Text.Age
import QuadWalk.Text.Break
import QuadWalk.Text.Property
import QuadWalk.Text.Script

/-!
# Properties by name

Patterns name properties of characters loosely: case, blanks, lines and a leading `is` do not
matter. A name by itself is that of a property, a general category or a script, tried in this order;
a name with a value asks for a category, a script, the extensions of a script, an age, or a class of
the divisions of texts.
-/

namespace QuadWalk.PropertyName

/-- The name in small letters, without blanks, lines, a leading `is` and whatever is not ASCII. -/
def normalize (name : String) : String :=
  let cs := name.toList
  let rest := if (cs.take 2).map Char.toLower = ['i', 's'] then cs.drop 2 else cs
  let kept := (rest.filter fun c => c ≠ ' ' ∧ c ≠ '_' ∧ c ≠ '-' ∧ c.toNat < 0x80).map Char.toLower
  String.ofList (if rest.length < cs.length ∧ kept = ['c'] then ['i', 's', 'c'] else kept)

/-- The first name of an entry that some name of it matches. -/
def matching? (names : List (String × List String)) (name : String) : Option String :=
  (names.find? fun entry => (entry.1 :: entry.2).any fun n => normalize n = name).map Prod.fst

/-- The codes of a category, or of one of the three groups that are no categories. -/
def category? (name : String) : Option CodeSet :=
  if name = "any" then some CodeSet.all
  else if name = "assigned" then some (Category.set "Cn").compl
  else if name = "ascii" then some (CodeSet.range 0 0x7F)
  else (matching? Category.names name).map Category.set

/-- The codes of a script. -/
def script? (name : String) : Option CodeSet := (matching? Script.names name).map Script.set

/-- The codes that a script uses. -/
def extensions? (name : String) : Option CodeSet :=
  (matching? Script.names name).map Script.extendedSet

/-- The codes assigned up to a version, which is written with a point or, after a `v`, without. -/
def age? (name : String) : Option CodeSet :=
  let plain (version : String) : String := String.ofList ('v' :: version.toList.filter (· ≠ '.'))
  (Age.versions.find? fun version => name = version ∨ name = plain version).map Age.set

/-- The codes that a name stands for. Three short names are kept for the categories that have them.
-/
def codes? : PropertyName → Option CodeSet
  | plain name =>
    let name := normalize name
    let property := if name ∈ ["cf", "sc", "lc"] then none else Property.named name
    (property.or (category? name)).or (script? name)
  | valued name value =>
    let name := normalize name
    let value := normalize value
    if name = "gc" ∨ name = "generalcategory" then category? value
    else if name = "sc" ∨ name = "script" then script? value
    else if name = "scx" ∨ name = "scriptextensions" then extensions? value
    else if name = "age" then age? value
    else if name = "gcb" ∨ name = "graphemeclusterbreak" then
      (matching? Break.graphemeNames value).map Break.graphemeSet
    else if name = "wb" ∨ name = "wordbreak" then
      (matching? Break.wordNames value).map Break.wordSet
    else if name = "sb" ∨ name = "sentencebreak" then
      (matching? Break.sentenceNames value).map Break.sentenceSet
    else none

end QuadWalk.PropertyName
