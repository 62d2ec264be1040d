/-
# Operations on values

The operators, properties and methods that programs use.  Values are typed loosely: every
value is true or false, has a number and a text, and nothing fails.
-/
import ViewKit.Number.Read
import ViewKit.Path.Read
import ViewKit.Template.Program
import ViewKit.Text.Blank
import ViewKit.Text.Case
import ViewKit.Text.Split
import ViewKit.Value.Display

namespace ViewKit.Value

/-- Whether a value counts as true. -/
def truthy : Value → Bool
  | null => false
  | bool b => b
  | number x => x != 0 && !x.isNaN
  | text s => !s.isEmpty
  | date _ => true
  | list _ => true
  | map _ => true

/-- Not a number. -/
def notANumber : Float := Binary64.nan.toFloat

/-- The number that a text reads as; a blank one is zero. -/
def numberOfText (s : String) : Float :=
  let cs := Text.trim s.toList
  if cs.isEmpty then Number.ofNat 0 else (Number.read? cs).getD notANumber

mutual

/-- The number of a value; a list with one item has the number of that item. -/
def toNumber : Value → Float
  | null => Number.ofNat 0
  | bool b => Number.ofNat b.toNat
  | number x => x
  | text s => numberOfText s
  | date t => Number.ofInt t.milliseconds
  | list items => numberOfItems items
  | map _ => notANumber

/-- The number of a list with the given items. -/
def numberOfItems : List Value → Float
  | [] => Number.ofNat 0
  | [v] => toNumber v
  | _ => notANumber

end

/-- The name of the type of a value, as programs see it. -/
def typeName : Value → String
  | null => "undefined"
  | bool _ => "boolean"
  | number _ => "number"
  | text _ => "string"
  | date _ => "object"
  | list _ => "object"
  | map _ => "object"

/-! ## Operators -/

/-- Whether adding the value to another one joins their texts. -/
def joinsText : Value → Bool
  | text _ => true
  | date _ => true
  | list _ => true
  | map _ => true
  | _ => false

/-- The sum of two values: their texts joined, or the sum of their numbers. -/
def add (a b : Value) : Value :=
  if a.joinsText || b.joinsText then text (a.display ++ b.display)
  else number (a.toNumber + b.toNumber)

/-- Equality of values of the same type; not a number differs from itself. -/
def strictlyEqual : Value → Value → Bool
  | number x, number y => x == y
  | a, b => a == b

/-- Equality of values after a truth value, or one of a number and a text, is taken as a
number.  A null equals only a null. -/
def looselyEqual : Value → Value → Bool
  | null, null => true
  | null, _ => false
  | _, null => false
  | bool b, w => Number.ofNat b.toNat == w.toNumber
  | v, bool b => v.toNumber == Number.ofNat b.toNat
  | number x, text s => x == numberOfText s
  | text s, number x => numberOfText s == x
  | v, w => strictlyEqual v w

/-- The order of two values: of texts by their characters, of others by their numbers. -/
def order? : Value → Value → Option Ordering
  | text s, text t => some (compare s t)
  | a, b => Number.order? a.toNumber b.toNumber

end ViewKit.Value

namespace ViewKit

open Value

/-- The result of an operator with one operand. -/
def UnaryOperator.apply (operator : UnaryOperator) (v : Value) : Value :=
  match operator with
  | not => .bool !v.truthy
  | negate => .number (-v.toNumber)
  | plus => .number v.toNumber
  | typeof => .text v.typeName

/-- The result of an operator on the values of both operands. -/
def BinaryOperator.apply (operator : BinaryOperator) (a b : Value) : Value :=
  match operator with
  | multiply => .number (a.toNumber * b.toNumber)
  | divide => .number (a.toNumber / b.toNumber)
  | remainder => .number (Number.remainder a.toNumber b.toNumber)
  | add => a.add b
  | subtract => .number (a.toNumber - b.toNumber)
  | less => .bool ((order? a b).any Ordering.isLT)
  | lessOrEqual => .bool ((order? a b).any Ordering.isLE)
  | greater => .bool ((order? a b).any Ordering.isGT)
  | greaterOrEqual => .bool ((order? a b).any Ordering.isGE)
  | equal => .bool (looselyEqual a b)
  | notEqual => .bool !looselyEqual a b
  | strictEqual => .bool (strictlyEqual a b)
  | strictNotEqual => .bool !strictlyEqual a b
  | and => .bool (a.truthy && b.truthy)
  | or => .bool (a.truthy || b.truthy)

namespace Value

/-! ## Properties -/

/-- The character of a text at an index. -/
def character (s : String) (index : Nat) : Value :=
  match s.toList[index]? with
  | some c => text (String.singleton c)
  | none => null

/-- A property of a value, null if it has none of that name. -/
def property (v : Value) (name : String) : Value :=
  match v with
  | list items => if name = "length" then ofNat items.length else (v.child? name).getD null
  | text s =>
    if name = "length" then ofNat s.length
    else
      match Path.index? name with
      | some i => character s i
      | none => null
  | _ => (v.child? name).getD null

/-- A part of a value at an index, which need not be a number. -/
def atIndex (v index : Value) : Value :=
  match v, index with
  | list items, number x =>
    if x ≥ 0 && Number.isWhole x then (items[Number.wholePart x]?).getD null
    else v.property index.display
  | _, _ => v.property index.display

/-! ## Methods -/

/-- The position of a value in a list. -/
def position? (v : Value) : List Value → Option Nat
  | [] => none
  | w :: ws => if w == v then some 0 else (position? v ws).map (· + 1)

/-- A position as a number, minus one if there is none. -/
def ofPosition : Option Nat → Value
  | some i => ofNat i
  | none => number (Number.ofInt (-1))

/-- The position of the text of a value in another text. -/
def positionIn? (s : String) (v : Value) : Option Nat := Text.find? v.display.toList s.toList

/-- The result of a method, null if the value has none of that name. -/
def method (receiver : Value) (name : String) (arguments : List Value) : Value :=
  let argument := arguments.head?
  match receiver, name with
  | list items, "join" =>
    text (Text.join ((argument.map display).getD ",") (items.map printed))
  | list items, "includes" => bool (argument.any fun v => (position? v items).isSome)
  | list items, "indexOf" => ofPosition (argument.bind fun v => position? v items)
  | text s, "includes" => bool (argument.any fun v => (positionIn? s v).isSome)
  | text s, "indexOf" => ofPosition (argument.bind (positionIn? s))
  | text s, "toUpperCase" => text (String.ofList (Text.toUpper s.toList))
  | text s, "toLowerCase" => text (String.ofList (Text.toLower s.toList))
  | text s, "trim" => text (String.ofList (Text.trim s.toList))
  | v, "toString" => text v.display
  | _, _ => null

/-! ## Parts -/

/-- The indices below a number, as texts. -/
def indices (n : Nat) : List Value := (List.range n).map fun i => text (toString i)

/-- What a loop runs through. -/
def parts (v : Value) (kind : LoopKind) : List Value :=
  match v, kind with
  | list vs, .items => vs
  | text s, .items => s.toList.map fun c => text (String.singleton c)
  | map fields, .keys => fields.map fun (name, _) => text name
  | list vs, .keys => indices vs.length
  | text s, .keys => indices s.length
  | _, _ => []

end Value
end ViewKit
