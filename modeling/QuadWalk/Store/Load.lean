import QuadWalk.Rdf.Statements
import QuadWalk.Store.QuadStore

/-!
# Loading graph files

All statements of a file are read and turned into quads before any of them is added, so that a file
with a fault leaves the store as it was.
-/

namespace QuadWalk

/-- Why a file is not loaded. -/
inductive LoadError where
  /-- The file has a fault. -/
  | malformed (format : RdfFormat)
  /-- A statement holds a term that has no place in a graph. -/
  | unsupported (format : RdfFormat) (error : TermError)
  /-- The name of the file does not tell its format. -/
  | unknownFormat (path : String)
  /-- There is no such file. -/
  | unreadable (path : String)

/-- What the error says. -/
def LoadError.message : LoadError → String
  | malformed format => "failed to parse " ++ format.name ++ ": Source failed"
  | unsupported format error =>
    "failed to parse " ++ format.name ++ ": Sink failed: " ++ error.message
  | unknownFormat path => "unsupported RDF file extension: " ++ path
  | unreadable path => "failed to read " ++ path

/-- The quad of a statement. -/
def Statement.quad (st : Statement) : Except TermError Quad := do
  let subject ← st.subject.identifier
  let predicate ← st.predicate.identifier
  let object ← st.object.value
  match st.label with
  | none => pure { subject, predicate, object }
  | some label => pure { subject, predicate, object, label := some (← label.identifier) }

/-- The quads of a file. Of a term without a place and a fault after it, the term is reported. -/
def Statements.quads (format : RdfFormat) (statements : Statements) :
    Except LoadError (List Quad) :=
  match statements.list.mapM Statement.quad with
  | .error e => .error (.unsupported format e)
  | .ok quads => if statements.complete then .ok quads else .error (.malformed format)

namespace QuadStore

/-! ### Loading -/

/-- Adds the quads of statements that were read. Whether they are added or not, there is a store
afterwards; the result tells how many of them are new. -/
def loadStatements (s : QuadStore) (format : RdfFormat) (statements : Statements) :
    Except LoadError Nat × QuadStore :=
  match statements.quads format with
  | .error e => (.error e, s)
  | .ok quads =>
    let (count, s) := s.addAll quads
    (.ok count, s)

/-- Adds the quads of a file, given by its bytes. -/
def loadBytes (s : QuadStore) (format : RdfFormat) (bytes : List UInt8) :
    Except LoadError Nat × QuadStore :=
  s.loadStatements format (Statements.read format bytes)

/-- Adds the quads of a text. -/
def loadText (s : QuadStore) (format : RdfFormat) (text : String) :
    Except LoadError Nat × QuadStore :=
  s.loadBytes format text.toUTF8.toList

/-- Adds the quads of a named file, given its content if there is such a file. -/
def loadFile (s : QuadStore) (path : String) (content : Option (List UInt8)) :
    Except LoadError Nat × QuadStore :=
  match RdfFormat.ofPath? path, content with
  | none, _ => (.error (.unknownFormat path), s)
  | some _, none => (.error (.unreadable path), s)
  | some format, some bytes => s.loadBytes format bytes

end QuadStore

end QuadWalk
