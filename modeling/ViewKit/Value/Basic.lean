/-
# Values

A value is the datum that a state holds and that markup is rendered from: a scalar, a date,
a list or a map from names to values in insertion order.  Absence is not a value; what may
be missing is an `Option Value`.
-/
import ViewKit.Calendar
import ViewKit.Fields
import ViewKit.Number.Text

namespace ViewKit

/-- A datum. -/
inductive Value where
  | null
  | bool (b : Bool)
  | number (x : Float)
  | text (s : String)
  /-- A date is a leaf: it has no parts. -/
  | date (t : Instant)
  | list (items : List Value)
  /-- The names are distinct and in the order of their first insertion. -/
  | map (fields : List (String × Value))

namespace Value

instance : Inhabited Value := ⟨null⟩

/-- The map without fields, which is what an empty state holds. -/
def emptyMap : Value := map []

/-- The name of the kind of a value, as messages give it. -/
def kind : Value → String
  | null => "null"
  | bool _ => "boolean"
  | number _ => "number"
  | text _ => "string"
  | date _ => "date"
  | list _ => "list"
  | map _ => "map"

def isNull : Value → Bool
  | null => true
  | _ => false

/-- Lists and maps contain other values. -/
def isContainer : Value → Bool
  | list _ => true
  | map _ => true
  | _ => false

def asBool? : Value → Option Bool
  | bool b => some b
  | _ => none

def asNumber? : Value → Option Float
  | number x => some x
  | _ => none

def asText? : Value → Option String
  | text s => some s
  | _ => none

def asList? : Value → Option (List Value)
  | list items => some items
  | _ => none

def asMap? : Value → Option (List (String × Value))
  | map fields => some fields
  | _ => none

/-- A field of a map. -/
def field? (v : Value) (name : String) : Option Value :=
  match v with
  | map fields => Fields.get? name fields
  | _ => none

/-- An item of a list. -/
def item? (v : Value) (index : Nat) : Option Value :=
  match v with
  | list items => items[index]?
  | _ => none

/-- A natural number as a value. -/
def ofNat (n : Nat) : Value := number (Number.ofNat n)

/-! ## Equality -/

mutual

/-- Equality of values as data: not a number equals itself, and the order of the fields of
a map does not matter. -/
def same : Value → Value → Bool
  | null, null => true
  | bool a, bool b => a == b
  | number x, number y => Number.same x y
  | text s, text t => s == t
  | date a, date b => a == b
  | list xs, list ys => sameItems xs ys
  | map fs, map gs => fs.length == gs.length && sameFields fs gs
  | _, _ => false

/-- Lists are equal item by item. -/
def sameItems : List Value → List Value → Bool
  | [], [] => true
  | x :: xs, y :: ys => same x y && sameItems xs ys
  | _, _ => false

/-- Each field of the first map is one of the second with an equal value. -/
def sameFields : List (String × Value) → List (String × Value) → Bool
  | [], _ => true
  | (name, v) :: fs, gs =>
    (match Fields.get? name gs with
      | some w => same v w
      | none => false) && sameFields fs gs

end

instance : BEq Value := ⟨same⟩

/-! ## Maps with distinct names -/

mutual

/-- Every map in the value, at any depth, has distinct names. -/
def WellFormed : Value → Prop
  | list items => WellFormedItems items
  | map fields => Fields.Distinct fields ∧ WellFormedFields fields
  | _ => True

/-- Every value of a list is well formed. -/
def WellFormedItems : List Value → Prop
  | [] => True
  | v :: vs => WellFormed v ∧ WellFormedItems vs

/-- Every value of some fields is well formed. -/
def WellFormedFields : List (String × Value) → Prop
  | [] => True
  | (_, v) :: fields => WellFormed v ∧ WellFormedFields fields

end

end Value
end ViewKit
