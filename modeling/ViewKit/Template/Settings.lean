/-
# Template settings

The settings of a template name the variable under which its data can be reached and give
one pattern for each kind of region.  A kind without a pattern is disabled.  Settings can be
written as a JSON object, in which missing fields have their default and unknown fields do
not count, or as a JSON array of the fields in order.
-/
import ViewKit.Json.Basic

namespace ViewKit

/-- The kinds of regions, in the order in which they are looked for. -/
inductive RegionKind where
  /-- A value that is escaped and printed. -/
  | escape
  /-- A value that is printed as it is. -/
  | interpolate
  /-- Statements that are carried out. -/
  | evaluate
deriving DecidableEq

namespace RegionKind

/-- All kinds in the order in which they are looked for. -/
def all : List RegionKind := [escape, interpolate, evaluate]

/-- The name of a kind, in settings and in messages. -/
def name : RegionKind → String
  | escape => "escape"
  | interpolate => "interpolate"
  | evaluate => "evaluate"

/-- The pattern of a kind when the settings say nothing about it. -/
def defaultPattern : RegionKind → String
  | escape => "<%-([\\s\\S]+?)%>"
  | interpolate => "<%=([\\s\\S]+?)%>"
  | evaluate => "<%([\\s\\S]+?)%>"

end RegionKind

/-- The settings of a template. -/
structure Settings where
  /-- The name of the variable that holds the data. -/
  variableName : String := "data"
  escape : Option String := some RegionKind.escape.defaultPattern
  interpolate : Option String := some RegionKind.interpolate.defaultPattern
  evaluate : Option String := some RegionKind.evaluate.defaultPattern
deriving DecidableEq

namespace Settings

/-- The pattern of a kind of regions, none if the kind is disabled. -/
def pattern? (s : Settings) : RegionKind → Option String
  | .escape => s.escape
  | .interpolate => s.interpolate
  | .evaluate => s.evaluate

/-- A pattern in a document: a string, or null for none. -/
def readPattern? : Json → Option (Option String)
  | .null => some none
  | .text s => some (some s)
  | _ => none

/-- Sets one field from a document; a field with an unknown name does not count. -/
def setField? (s : Settings) (name : String) (j : Json) : Option Settings :=
  match name with
  | "variable" =>
    match j with
    | .text variableName => some { s with variableName }
    | _ => none
  | "escape" => (readPattern? j).map fun escape => { s with escape }
  | "interpolate" => (readPattern? j).map fun interpolate => { s with interpolate }
  | "evaluate" => (readPattern? j).map fun evaluate => { s with evaluate }
  | _ => some s

/-- The names of the fields in order. -/
def fieldNames : List String := ["variable", "escape", "interpolate", "evaluate"]

/-- Sets fields one after the other; none of the known ones may occur twice. -/
def setFields? : List String → Settings → List (String × Json) → Option Settings
  | _, s, [] => some s
  | seen, s, (name, j) :: fields =>
    if seen.contains name then none
    else do
      let s ← s.setField? name j
      setFields? (if fieldNames.contains name then name :: seen else seen) s fields

/-- The settings in a document. -/
def ofJson? : Json → Option Settings
  | .object fields => setFields? [] {} fields
  | .array items =>
    if items.length ≤ fieldNames.length then setFields? [] {} (fieldNames.zip items) else none
  | _ => none

/-- A pattern as a document. -/
def patternJson : Option String → Json
  | some s => .text s
  | none => .null

/-- Settings as a document, with every field. -/
def toJson (s : Settings) : Json :=
  .object [("variable", .text s.variableName), ("escape", patternJson s.escape),
    ("interpolate", patternJson s.interpolate), ("evaluate", patternJson s.evaluate)]

end Settings
end ViewKit
