/-!
# Datatypes of literals

The datatype IRIs that a value knows by itself.
-/

namespace QuadWalk.Datatype

/-- The start of the IRIs of the XML Schema datatypes. -/
def schema (name : String) : String := "http://www.w3.org/2001/XMLSchema#" ++ name

/-- The datatype of plain texts. -/
def string : String := schema "string"

/-- The datatype of double-precision numbers. -/
def double : String := schema "double"

/-- The datatype of truth values. -/
def boolean : String := schema "boolean"

/-- The datatype of texts in a language. -/
def langString : String := "http://www.w3.org/1999/02/22-rdf-syntax-ns#langString"

/-- The datatypes whose literals are 64-bit integers. -/
def integers : List String := [schema "integer", schema "int", schema "long"]

/-- The datatypes whose literals are double-precision numbers. -/
def floats : List String := [double, schema "float", schema "decimal"]

end QuadWalk.Datatype
