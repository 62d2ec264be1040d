/-
# Changes between values

The changes that turn an old value into a new one form a tree along their maps: a leaf sets
a value or removes a field, and a node holds the changes of the fields of a map.  Lists,
dates and scalars are not looked into; any difference sets the whole new value.
-/
import ViewKit.Value.Basic

namespace ViewKit

/-- The changes from one value to another. -/
inductive Diff where
  /-- The value was added or changed to this one. -/
  | set (v : Value)
  /-- The field is no longer there. -/
  | removed
  /-- Changes of the fields of a map. -/
  | nested (changes : List (String × Diff))

namespace Diff

/-- The fields of a map that another one does not have, as changes. -/
def additions (old : List (String × Value)) : List (String × Value) → List (String × Diff)
  | [] => []
  | (name, v) :: fields =>
    if Fields.contains name old then additions old fields
    else (name, set v) :: additions old fields

/-- A change that is there if two values differ. -/
def replacement? (new old : Value) : Option Diff := if new == old then none else some (set new)

mutual

/-- The changes that turn `old` into `new`, if there are any.  Of a map the added fields come
first, then the changed and removed ones in their old order. -/
def between? (new : Value) : Value → Option Diff
  | .map oldFields =>
    match new with
    | .map newFields =>
      match additions oldFields newFields ++ changes newFields oldFields with
      | [] => none
      | all => some (nested all)
    | new => replacement? new (.map oldFields)
  | old => replacement? new old

/-- The changes of the fields that were there before. -/
def changes (newFields : List (String × Value)) : List (String × Value) → List (String × Diff)
  | [] => []
  | (name, old) :: fields =>
    match Fields.get? name newFields with
    | none => (name, removed) :: changes newFields fields
    | some new =>
      match between? new old with
      | some change => (name, change) :: changes newFields fields
      | none => changes newFields fields

end

mutual

/-- Carries changes out on a value.  Where changes of fields meet no map, an empty one takes
its place. -/
def apply : Diff → Value → Value
  | set v, _ => v
  | removed, _ => .null
  | nested changes, target =>
    .map (applyAll changes ((target.asMap?).getD []))

/-- Carries changes out on the fields of a map. -/
def applyAll : List (String × Diff) → List (String × Value) → List (String × Value)
  | [], fields => fields
  | (name, removed) :: changes, fields => applyAll changes (Fields.erase name fields)
  | (name, set v) :: changes, fields => applyAll changes (Fields.insert name v fields)
  | (name, nested inner) :: changes, fields =>
    let child := apply (nested inner) ((Fields.get? name fields).getD .emptyMap)
    applyAll changes (Fields.insert name child fields)

end

/-- The path of a field of what lies at another path. -/
def joinPath (path name : String) : String :=
  if path.isEmpty then name else path ++ "." ++ name

mutual

/-- The leaves below a path with their paths; no value stands for a removal. -/
def entriesAt (path : String) : Diff → List (String × Option Value)
  | set v => [(path, some v)]
  | removed => [(path, none)]
  | nested changes => entriesOf path changes

/-- The leaves of the changes of some fields. -/
def entriesOf (path : String) : List (String × Diff) → List (String × Option Value)
  | [] => []
  | (name, change) :: changes => entriesAt (joinPath path name) change ++ entriesOf path changes

end

/-- The leaves with their paths. -/
def entries (d : Diff) : List (String × Option Value) := d.entriesAt ""

end Diff
end ViewKit
