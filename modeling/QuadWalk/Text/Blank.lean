import QuadWalk.Text.Property

/-!
# Blank characters

Blank are the code points with the property `White_Space`: besides the ASCII blanks also the
no-break space, the ideographic space and the line separators, but not the zero-width space.
-/

namespace QuadWalk.Text

/-- Whether a character is blank. -/
def isBlank (c : Char) : Bool := Property.whiteSpace.mem c

/-- The text without the blanks at its start. -/
def trimLeft (cs : List Char) : List Char := cs.dropWhile isBlank

/-- The text without the blanks at its end. -/
def trimRight (cs : List Char) : List Char := (cs.reverse.dropWhile isBlank).reverse

/-- The text without the blanks at its two ends. -/
def trim (cs : List Char) : List Char := trimRight (trimLeft cs)

end QuadWalk.Text
