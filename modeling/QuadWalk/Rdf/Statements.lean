import QuadWalk.Rdf.Format
import QuadWalk.Rdf.Iri
import QuadWalk.Rdf.LanguageTag
import QuadWalk.Rdf.Term
import QuadWalk.Text.Utf8

/-!
# Statements of a graph file

A graph file has one statement a line: subject, predicate and object, in a file of quads perhaps a
label, and a point. `Statements.read` gives the statements up to the first fault and tells whether
there was one.

## The model

A reader takes the characters that are left, `none` standing for a byte that belongs to no
character, and returns what it read with the rest. Such a byte is a fault everywhere but in what is
skipped: a comment, and whatever follows a carriage return on its line.
-/

namespace QuadWalk

/-- The characters of a file. -/
abbrev RdfSource := List (Option Char)

/-- The terms of one statement. -/
structure Statement where
  subject : Term
  predicate : Term
  object : Term
  label : Option Term := none

/-- The statements of a file up to its first fault. -/
structure Statements where
  /-- The statements in their order. -/
  list : List Statement
  /-- Whether the whole file was read. -/
  complete : Bool

namespace RdfReader

/-! ### Tokens -/

/-- Skips blanks within a line. -/
def skip (s : RdfSource) : RdfSource := s.dropWhile fun c => c = some ' ' || c = some '\t'

/-- Skips the rest of a line with its line feed. -/
def skipLine (s : RdfSource) : RdfSource := (s.dropWhile (· ≠ some '\n')).drop 1

/-- The characters up to a closing mark, escapes being left as they are, and the rest after the
mark. A line end is a fault. -/
def raw? (mark : Char) : RdfSource → Option (List Char × RdfSource)
  | some '\\' :: some c :: s =>
    if c = '\n' ∨ c = '\r' then none
    else (raw? mark s).map fun (cs, rest) => ('\\' :: c :: cs, rest)
  | some c :: s =>
    if c = mark then some ([], s)
    else if c = '\n' ∨ c = '\r' then none
    else (raw? mark s).map fun (cs, rest) => (c :: cs, rest)
  | _ => none

/-- Replaces escapes: `u` and `U` with four and eight hexadecimal digits, and the given short ones.
The first two arguments are the digits that are still missing and the code so far. -/
def unescape? (short : Char → Option Char) : Nat → Nat → List Char → Option (List Char)
  | 0, _, [] => some []
  | 0, _, ['\\'] => none
  | 0, _, '\\' :: c :: cs =>
    if c = 'u' then unescape? short 4 0 cs
    else if c = 'U' then unescape? short 8 0 cs
    else do
      let c ← short c
      let cs ← unescape? short 0 0 cs
      pure (c :: cs)
  | 0, _, c :: cs => (unescape? short 0 0 cs).map (c :: ·)
  | missing + 1, code, c :: cs => do
    let d ← CodeTable.hexDigit? c
    let code := 16 * code + d
    if missing = 0 then
      if code.isValidChar then (unescape? short 0 0 cs).map (Char.ofNat code :: ·) else none
    else unescape? short missing code cs
  | _ + 1, _, [] => none

/-- The short escapes of texts. -/
def textEscape? : Char → Option Char
  | 't' => some '\t'
  | 'b' => some '\x08'
  | 'n' => some '\n'
  | 'r' => some '\r'
  | 'f' => some '\x0c'
  | '"' => some '"'
  | '\'' => some '\''
  | '\\' => some '\\'
  | _ => none

/-- An IRI after its opening bracket. -/
def iri? (s : RdfSource) : Option (String × RdfSource) := do
  let (cs, rest) ← raw? '>' s
  let cs ← unescape? (fun _ => none) 0 0 cs
  if Iri.isAbsolute cs then some (String.ofList cs, rest) else none

/-- The ranges of characters beyond ASCII that may begin a label. -/
def labelStarts : CodeSet :=
  ⟨[(0xC0, 0xD6), (0xD8, 0xF6), (0xF8, 0x2FF), (0x370, 0x37D), (0x37F, 0x1FFF), (0x200C, 0x200D),
    (0x2070, 0x218F), (0x2C00, 0x2FEF), (0x3001, 0xD7FF), (0xF900, 0xFDCF), (0xFDF0, 0xFFFD),
    (0x10000, 0xEFFFF)]⟩

/-- The further ranges of characters beyond ASCII that may continue a label. -/
def labelParts : CodeSet := ⟨[(0xB7, 0xB7), (0x300, 0x36F), (0x203F, 0x2040)]⟩

/-- Whether a character may begin a label. -/
def isLabelStart (c : Char) : Bool := c.isAlphanum || c = '_' || labelStarts.mem c

/-- Whether a character may continue a label. -/
def isLabelPart (c : Char) : Bool := isLabelStart c || c = '-' || labelParts.mem c

/-- The rest of a label. A point belongs to it if the label goes on after it. -/
def labelRest : RdfSource → List Char × RdfSource
  | some c :: s =>
    if isLabelPart c || (c = '.' && s.head?.any fun d => d.any isLabelPart) then
      let (cs, rest) := labelRest s
      (c :: cs, rest)
    else ([], some c :: s)
  | s => ([], s)

/-- The label of a blank node after its underscore. -/
def label? : RdfSource → Option (String × RdfSource)
  | some ':' :: some c :: s =>
    if isLabelStart c then
      let (cs, rest) := labelRest s
      some (String.ofList (c :: cs), rest)
    else none
  | _ => none

/-- A language tag after its at sign, in small letters. -/
def language? (s : RdfSource) : Option (String × RdfSource) :=
  let isPart (c : Option Char) : Bool := c.any fun c => c.isAlphanum || c = '-'
  let cs := (s.takeWhile isPart).filterMap id
  if LanguageTag.isWellFormed cs then
    some (String.ofList (cs.map Char.toLower), s.dropWhile isPart)
  else none

/-- A literal after its opening quote. -/
def literal? (s : RdfSource) : Option (Term × RdfSource) := do
  let (cs, rest) ← raw? '"' s
  let lexical := String.ofList (← unescape? textEscape? 0 0 cs)
  match skip rest with
  | some '@' :: s =>
    (language? s).map fun (language, rest) => (.literal lexical none (some language), rest)
  | some '^' :: some '^' :: s =>
    match skip s with
    | some '<' :: s =>
      (iri? s).map fun (datatype, rest) => (.literal lexical (some datatype) none, rest)
    | _ => none
  | some '^' :: _ => none
  | rest => some (.literal lexical none none, rest)

/-! ### Statements -/

/-- An IRI with its opening bracket. -/
def predicate? : RdfSource → Option (Term × RdfSource)
  | some '<' :: s => (iri? s).map fun (text, rest) => (.iri text, rest)
  | _ => none

/-- An IRI or a blank node. -/
def node? : RdfSource → Option (Term × RdfSource)
  | some '_' :: s => (label? s).map fun (label, rest) => (.blank label, rest)
  | s => predicate? s

/-- A term that is no quotation. Only an object may be a literal. -/
def simpleTerm? (isObject : Bool) : RdfSource → Option (Term × RdfSource)
  | some '"' :: s => if isObject then literal? s else none
  | s => node? s

/-- A subject, a predicate and an object, given how a subject or an object is read. -/
def triple? (term? : Bool → RdfSource → Option (Term × RdfSource)) (s : RdfSource) :
    Option ((Term × Term × Term) × RdfSource) := do
  let (subject, rest) ← term? false (skip s)
  let (predicate, rest) ← predicate? (skip rest)
  let (object, rest) ← term? true (skip rest)
  pure ((subject, predicate, object), rest)

/-- A subject or an object, in which quotations may be nested to some depth. -/
def term? : Nat → Bool → RdfSource → Option (Term × RdfSource)
  | depth + 1, _, some '<' :: some '<' :: s => do
    let ((subject, predicate, object), rest) ← triple? (term? depth) s
    match skip rest with
    | some '>' :: some '>' :: rest => pure (.quotation subject predicate object, rest)
    | _ => none
  | _, isObject, s => simpleTerm? isObject s

/-- How deeply quotations may be nested. -/
def quotationLimit : Nat := 128

/-- A statement up to the line after it. -/
def statement? (format : RdfFormat) (s : RdfSource) : Option (Statement × RdfSource) := do
  let ((subject, predicate, object), rest) ← triple? (term? quotationLimit) s
  let rest := skip rest
  let labelled := format = .quads ∧ (rest.head? = some (some '<') ∨ rest.head? = some (some '_'))
  let (label, rest) ←
    if labelled then (node? rest).map fun (label, rest) => (some label, rest) else some (none, rest)
  match skip rest with
  | some '.' :: rest =>
    let rest := skip rest
    let ended := match rest with
      | [] => true
      | c :: _ => c = some '#' || c = some '\r' || c = some '\n'
    if ended then pure ({ subject, predicate, object, label }, skipLine rest) else none
  | _ => none

/-- Reads statements line by line, one unit of fuel for each line. -/
def statements (format : RdfFormat) : Nat → RdfSource → Statements
  | 0, _ => ⟨[], true⟩
  | fuel + 1, s =>
    match skip s with
    | [] => ⟨[], true⟩
    | c :: rest =>
      if c = some '#' ∨ c = some '\r' ∨ c = some '\n' then
        statements format fuel (skipLine (c :: rest))
      else
        match statement? format (c :: rest) with
        | none => ⟨[], false⟩
        | some (statement, rest) =>
          let more := statements format fuel rest
          ⟨statement :: more.list, more.complete⟩

end RdfReader

/-- The statements of a file, given by its bytes. -/
def Statements.read (format : RdfFormat) (bytes : List UInt8) : Statements :=
  let source := Text.decode bytes
  RdfReader.statements format (source.length + 1) source

end QuadWalk
