import QuadWalk.Json.Source

/-!
# Settings

How many results a query may give at most, and how large the patterns of its filters may be.
Settings are written in JSON, as an object in which either may be missing or as an array in which
the last ones may be missing.
-/

namespace QuadWalk

/-- The settings of a query. -/
structure Settings where
  /-- After how many results to stop. -/
  maxResults : Option Nat := none
  /-- The largest size of a pattern. -/
  patternSizeLimit : Nat := 0x100000
  deriving DecidableEq

namespace Settings

/-- The settings with another number of results. -/
def withMaxResults (s : Settings) (n : Nat) : Settings := { s with maxResults := some n }

/-- A natural number below `2 ^ 64`, which has to be written as an integer. -/
def natural? : JsonSource → Option Nat
  | .number (some (.int n)) => if 0 ≤ n then some n.toNat else none
  | _ => none

/-- A number of results, or `null` for no limit. -/
def maxResults? : JsonSource → Option (Option Nat)
  | .null => some none
  | source => (natural? source).map some

/-- The settings with one that is given by name. -/
def set? (s : Settings) : String × JsonSource → Option Settings
  | ("max_results", source) => (maxResults? source).map fun n => { s with maxResults := n }
  | ("regex_size_limit", source) => (natural? source).map fun n => { s with patternSizeLimit := n }
  | _ => none

/-- The settings that a JSON value gives. No setting may be given twice, and none that is unknown.
-/
def ofSource? : JsonSource → Option Settings
  | .object fields => do
    let fields ← JsonSource.named? fields
    let names := fields.map Prod.fst
    if names.eraseDups = names then fields.foldlM set? {} else none
  | .array [] => some {}
  | .array [n] => do pure { maxResults := ← maxResults? n }
  | .array [n, size] => do
    let maxResults ← maxResults? n
    let patternSizeLimit ← natural? size
    pure { maxResults, patternSizeLimit }
  | _ => none

/-- Reads settings from their text. -/
def ofJsonText? (text : String) : Option Settings := (JsonSource.read? text).bind ofSource?

end Settings

end QuadWalk
