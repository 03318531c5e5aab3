import QuadWalk.Text.CodeSet

/-!
# Absolute IRIs

An absolute IRI has a scheme, perhaps an authority, a path, and perhaps a query and a fragment. Each
part admits letters, digits, some marks, most characters beyond ASCII, and per cent signs with two
hexadecimal digits. The text is only checked; nothing in it is changed.
-/

namespace QuadWalk.Iri

/-- The ranges of characters beyond ASCII that an IRI may hold. -/
def wideRanges : CodeSet :=
  ⟨[(0xA0, 0xD7FF), (0xF900, 0xFDCF), (0xFDF0, 0xFFEF), (0x10000, 0x1FFFD), (0x20000, 0x2FFFD),
    (0x30000, 0x3FFFD), (0x40000, 0x4FFFD), (0x50000, 0x5FFFD), (0x60000, 0x6FFFD),
    (0x70000, 0x7FFFD), (0x80000, 0x8FFFD), (0x90000, 0x9FFFD), (0xA0000, 0xAFFFD),
    (0xB0000, 0xBFFFD), (0xC0000, 0xCFFFD), (0xD0000, 0xDFFFD), (0xE1000, 0xEFFFD)]⟩

/-- The private characters, which only a query may hold. -/
def privateRanges : CodeSet := ⟨[(0xE000, 0xF8FF), (0xF0000, 0xFFFFD), (0x100000, 0x10FFFD)]⟩

/-- The characters that every part may hold as they are. -/
def isPlain (c : Char) : Bool :=
  c.isAlphanum || "-._~!$&'()*+,;=".toList.contains c || wideRanges.mem c

/-- The characters of a path. -/
def isPathChar (c : Char) : Bool := isPlain c || c = ':' || c = '@' || c = '/'

/-- The characters of a fragment. -/
def isFragmentChar (c : Char) : Bool := isPathChar c || c = '?'

/-- The characters of a query. -/
def isQueryChar (c : Char) : Bool := isFragmentChar c || privateRanges.mem c

/-- Whether a character is a hexadecimal digit. -/
def isHexDigit (c : Char) : Bool := (CodeTable.hexDigit? c).isSome

/-- Whether a text holds allowed characters and per cent signs with two digits only. -/
def allAllowed (p : Char → Bool) : List Char → Bool
  | [] => true
  | '%' :: a :: b :: cs => isHexDigit a && isHexDigit b && allAllowed p cs
  | c :: cs => p c && allAllowed p cs

/-! ### Hosts -/

/-- The parts of a text between colons or other separators. -/
def splitOn (separator : Char) : List Char → List (List Char)
  | [] => [[]]
  | c :: cs =>
    if c = separator then [] :: splitOn separator cs
    else
      match splitOn separator cs with
      | [] => [[c]]
      | part :: parts => (c :: part) :: parts

/-- Whether a text is a number from 0 to 255 without a leading zero. -/
def isOctet (cs : List Char) : Bool :=
  !cs.isEmpty && cs.length ≤ 3 && cs.all Char.isDigit && (cs.length = 1 || cs.head? ≠ some '0') &&
    cs.foldl (fun n c => 10 * n + (c.toNat - '0'.toNat)) 0 ≤ 255

/-- Whether a text is four numbers with points between them. -/
def isAddress4 (cs : List Char) : Bool :=
  let parts := splitOn '.' cs
  parts.length = 4 && parts.all isOctet

/-- Whether a text is one to four hexadecimal digits. -/
def isGroup (cs : List Char) : Bool := !cs.isEmpty && cs.length ≤ 4 && cs.all isHexDigit

/-- How many groups a list of groups stands for; the last may be an address of four numbers, which
counts as two. -/
def groupCount? (mayEndIn4 : Bool) : List (List Char) → Option Nat
  | [] => some 0
  | [last] =>
    if isGroup last then some 1 else if mayEndIn4 && isAddress4 last then some 2 else none
  | group :: groups =>
    if isGroup group then (groupCount? mayEndIn4 groups).map (· + 1) else none

/-- The groups of a text, of which there are none in an empty one. -/
def groups (cs : List Char) : List (List Char) := if cs.isEmpty then [] else splitOn ':' cs

/-- Splits a text at its first double colon. -/
def splitDoubleColon : List Char → Option (List Char × List Char)
  | ':' :: ':' :: cs => some ([], cs)
  | c :: cs => (splitDoubleColon cs).map fun (a, b) => (c :: a, b)
  | [] => none

/-- Whether a text is an address of eight groups, of which a double colon may leave out one or
more. -/
def isAddress6 (cs : List Char) : Bool :=
  match splitDoubleColon cs with
  | none => groupCount? true (groups cs) = some 8
  | some (front, back) =>
    match groupCount? false (groups front), groupCount? true (groups back) with
    | some m, some n => m + n ≤ 7
    | _, _ => false

/-- Whether a text is an address of a future version: `v`, hexadecimal digits, a point and more. -/
def isFutureAddress (cs : List Char) : Bool :=
  match cs with
  | v :: cs =>
    let version := cs.takeWhile (· ≠ '.')
    let rest := (cs.dropWhile (· ≠ '.')).drop 1
    (v = 'v' || v = 'V') && !version.isEmpty && version.all isHexDigit && !rest.isEmpty &&
      rest.all fun c => isPlain c || c = ':'
  | [] => false

/-- Whether what follows a host is nothing or a colon and digits. -/
def isPort : List Char → Bool
  | [] => true
  | c :: cs => c = ':' && cs.all Char.isDigit

/-- Whether a text is a host, perhaps with a port. -/
def isHost : List Char → Bool
  | '[' :: cs =>
    let address := cs.takeWhile (· ≠ ']')
    match cs.dropWhile (· ≠ ']') with
    | _ :: port => (isFutureAddress address || isAddress6 address) && isPort port
    | [] => false
  | cs => allAllowed isPlain (cs.takeWhile (· ≠ ':')) && isPort (cs.dropWhile (· ≠ ':'))

/-- Whether a text is an authority: perhaps a user and an at sign, then a host. -/
def isAuthority (cs : List Char) : Bool :=
  let user := cs.takeWhile fun c => c ≠ '@' && c ≠ '['
  match cs.dropWhile fun c => c ≠ '@' && c ≠ '[' with
  | '@' :: host => allAllowed (fun c => isPlain c || c = ':') user && isHost host
  | _ => isHost cs

/-! ### The whole IRI -/

/-- Whether a text is a scheme. -/
def isScheme : List Char → Bool
  | c :: cs => c.isAlpha && cs.all fun c => c.isAlphanum || c = '+' || c = '-' || c = '.'
  | [] => false

/-- Whether a text is what may follow a path: nothing, a query, a fragment, or both. -/
def isTail : List Char → Bool
  | '?' :: cs =>
    allAllowed isQueryChar (cs.takeWhile (· ≠ '#')) &&
      allAllowed isFragmentChar ((cs.dropWhile (· ≠ '#')).drop 1)
  | '#' :: cs => allAllowed isFragmentChar cs
  | cs => cs.isEmpty

/-- Whether a text is an absolute IRI. -/
def isAbsolute (cs : List Char) : Bool :=
  match cs.dropWhile (· ≠ ':') with
  | _ :: rest =>
    let isPart (c : Char) : Bool := c ≠ '?' && c ≠ '#'
    let place := rest.takeWhile isPart
    let placeOk := match place with
      | '/' :: '/' :: place =>
        isAuthority (place.takeWhile (· ≠ '/')) && allAllowed isPathChar (place.dropWhile (· ≠ '/'))
      | path => allAllowed isPathChar path
    isScheme (cs.takeWhile (· ≠ ':')) && placeOk && isTail (rest.dropWhile isPart)
  | [] => false

end QuadWalk.Iri
