import QuadWalk.Query.Error

/-!
# Text filters

A filter keeps values by their text. A *search* is a pattern that is found in the text, a *likeness*
a simple pattern for the whole text: `%` stands for any characters, `_` for one, and every other
character for itself. Likenesses look at IRIs and texts, searches at texts and, if asked for, at
IRIs.
-/

namespace QuadWalk

/-- A condition on the text of a value. -/
inductive TextFilter where
  | search (pattern : String) (includeIris : Bool)
  | like (pattern : String)
  deriving DecidableEq

namespace TextFilter

/-- What a character of a likeness becomes in a search. -/
def likePiece (c : Char) : List Char :=
  if c = '%' then ['.', '*']
  else if c = '_' then ['.']
  else if PatternReader.isMeta c then ['\\', c]
  else [c]

/-- The search that a likeness stands for: it begins and ends where the text does, and its dots
match line ends, too. -/
def likeSearch (pattern : String) : String :=
  String.ofList ("^(?s)".toList ++ pattern.toList.flatMap likePiece ++ ['$'])

/-- The text of the search that a filter makes. -/
def searchText : TextFilter → String
  | search pattern _ => pattern
  | like pattern => likeSearch pattern

/-- The text of a filter in plans. -/
def describe : TextFilter → String
  | search pattern includeIris =>
    "regexp /" ++ pattern ++ "/ include_iris=" ++ Value.boolText includeIris
  | like pattern => "like " ++ Text.quoted pattern

/-- The text of a value that a filter looks at. -/
def subject? (f : TextFilter) (v : Value) : Option String :=
  match v, f with
  | .iri text, search _ includeIris => if includeIris then some text else none
  | .iri text, like _ => some text
  | v, _ => v.text?

end TextFilter

/-- A filter with the pattern that it searches for. -/
structure TextMatcher where
  filter : TextFilter
  pattern : Pattern

namespace TextMatcher

/-- Prepares a filter; its pattern must not be larger than a limit. -/
def compile (f : TextFilter) (sizeLimit : Nat) : Except QueryError TextMatcher :=
  match Pattern.compile f.searchText.toList sizeLimit with
  | .ok pattern => .ok ⟨f, pattern⟩
  | .error e => .error (.malformedStep (.invalidPattern f.searchText e))

/-- Whether a value is kept. -/
def keeps (m : TextMatcher) (v : Value) : Bool :=
  match m.filter.subject? v with
  | some text => m.pattern.isFoundIn text.toList
  | none => false

end TextMatcher

end QuadWalk
