import QuadWalk.Text.Property
import QuadWalk.Text.Recent

/-!
# Quoted texts

Messages and plans show a text between double quotes. Quotes and backslashes are escaped, the common
control characters have escapes of their own, and whatever would not show as a character of its own
is written by its code: control and format characters, private and unassigned codes, blanks other
than the ASCII space, fillers, and marks that extend the character before them.
-/

namespace QuadWalk.Text

/-- Codes without a picture: what is no character or no public one, and blanks. -/
def pictureless : CodeSet :=
  ((Category.sets ["C", "Z"]).diff Recent.assigned).diff (CodeSet.singleton ' ')

/-- Marks that extend the character before them. The halfwidth sound marks of Katakana do so, too,
but take a place of their own. -/
def attached : CodeSet :=
  (Property.graphemeExtend.union Recent.graphemeExtend).diff (CodeSet.range 0xFF9E 0xFF9F)

/-- The characters that are shown by their codes. -/
def hiddenCodes : CodeSet :=
  CodeSet.unions [pictureless, attached, Property.defaultIgnorableCodePoint]

/-- Whether a character is shown by its code. The printable ASCII characters never are. -/
def isHidden (c : Char) : Bool :=
  !(' ' ≤ c && c ≤ '~') && hiddenCodes.mem c

/-- How one character stands in a quoted text. -/
def escape (c : Char) : List Char :=
  if c = '"' then ['\\', '"']
  else if c = '\\' then ['\\', '\\']
  else if c = '\n' then ['\\', 'n']
  else if c = '\r' then ['\\', 'r']
  else if c = '\t' then ['\\', 't']
  else if c.toNat = 0 then ['\\', '0']
  else if isHidden c then ['\\', 'u', '\x7b'] ++ Nat.toDigits 16 c.toNat ++ ['\x7d']
  else [c]

/-- The text between double quotes, with its characters escaped. -/
def quoted (s : String) : String :=
  String.ofList ('"' :: s.toList.flatMap escape ++ ['"'])

end QuadWalk.Text
