/-
# Serializing values

A value can be handed to any format that knows how to write its parts.  Two formats are
given: one builds a JSON document, the other writes the text of one.
-/
import ViewKit.Json.Basic
import ViewKit.Text.Split

namespace ViewKit

/-- What a format makes of the parts of a value. -/
structure Serializer (Output : Type) where
  unit : Output
  bool : Bool → Output
  integer : Int → Output
  double : Float → Output
  text : String → Output
  sequence : List Output → Output
  map : List (String × Output) → Output

namespace Value

/-- Hands a number over: as an integer if it is a safe one. -/
def serializeNumberTo {Output : Type} (format : Serializer Output) (x : Float) : Output :=
  if Number.isSafeInteger x then format.integer (Number.toInt x) else format.double x

mutual

/-- Hands a value over to a format, its parts first.  A date becomes its written form. -/
def serializeTo {Output : Type} (format : Serializer Output) : Value → Output
  | null => format.unit
  | bool b => format.bool b
  | number x => serializeNumberTo format x
  | text s => format.text s
  | date t => format.text t.text
  | list items => format.sequence (serializeItemsTo format items)
  | map fields => format.map (serializeFieldsTo format fields)

/-- Hands over the items of a list. -/
def serializeItemsTo {Output : Type} (format : Serializer Output) : List Value → List Output
  | [] => []
  | v :: vs => serializeTo format v :: serializeItemsTo format vs

/-- Hands over the fields of a map. -/
def serializeFieldsTo {Output : Type} (format : Serializer Output) :
    List (String × Value) → List (String × Output)
  | [] => []
  | (name, v) :: fields => (name, serializeTo format v) :: serializeFieldsTo format fields

end

end Value

namespace Json

/-- Builds a document.  A double that is not finite becomes null, and of two fields with one
name the later content counts. -/
def builder : Serializer Json where
  unit := null
  bool := bool
  integer := integer
  double x := if x.isFinite then fraction x else null
  text := text
  sequence := array
  map fields := object (Fields.ofList fields)

/-- Writes the text of a document, without any blanks. -/
def printer : Serializer String where
  unit := "null"
  bool b := if b then "true" else "false"
  integer n := toString n
  double x := (Number.jsonFraction x).getD "null"
  text := quote
  sequence items := "[" ++ Text.join "," items ++ "]"
  map fields :=
    "\x7b" ++ Text.join "," (fields.map fun (name, content) => quote name ++ ":" ++ content) ++
      "\x7d"

end Json
end ViewKit
