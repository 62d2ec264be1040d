/-
# JSON documents

A JSON document as a tree, its text, and its passage from and to values.  Numbers of a
document are integers or finite doubles.  A document keeps the fields of an object as they
were written; a value keeps one field per name, with the last content in the first place.
-/
import ViewKit.Value.Basic

namespace ViewKit

/-- A JSON document. -/
inductive Json where
  | null
  | bool (b : Bool)
  | integer (n : Int)
  /-- A number with a fraction, with an exponent, or too large for an integer. -/
  | fraction (x : Float)
  | text (s : String)
  | array (items : List Json)
  | object (fields : List (String × Json))

namespace Json

instance : Inhabited Json := ⟨null⟩

/-! ## Text -/

/-- One hexadecimal digit in lower case. -/
def hexDigit (n : Nat) : Char := if n < 10 then Char.ofNat (48 + n) else Char.ofNat (87 + n)

/-- How one character is written in a string of a document. -/
def escapeChar (c : Char) : List Char :=
  match c with
  | '"' => ['\\', '"']
  | '\\' => ['\\', '\\']
  | '\x08' => ['\\', 'b']
  | '\x0c' => ['\\', 'f']
  | '\n' => ['\\', 'n']
  | '\r' => ['\\', 'r']
  | '\t' => ['\\', 't']
  | c =>
    if c.toNat < 0x20 then ['\\', 'u', '0', '0', hexDigit (c.toNat / 16), hexDigit (c.toNat % 16)]
    else [c]

/-- A string in double quotes. -/
def quote (s : String) : String :=
  "\"" ++ String.ofList (s.toList.flatMap escapeChar) ++ "\""

mutual

/-- The text of a document, without any blanks. -/
def render : Json → String
  | null => "null"
  | bool b => if b then "true" else "false"
  | integer n => toString n
  | fraction x => (Number.jsonFraction x).getD "null"
  | text s => quote s
  | array items => "[" ++ renderItems items ++ "]"
  | object fields => "\x7b" ++ renderFields fields ++ "\x7d"

/-- The items of an array with commas between them. -/
def renderItems : List Json → String
  | [] => ""
  | [j] => render j
  | j :: js => render j ++ "," ++ renderItems js

/-- The fields of an object with commas between them. -/
def renderFields : List (String × Json) → String
  | [] => ""
  | [(name, j)] => quote name ++ ":" ++ render j
  | (name, j) :: fields => quote name ++ ":" ++ render j ++ "," ++ renderFields fields

end

/-! ## Values -/

mutual

/-- The value of a document. -/
def toValue : Json → Value
  | null => .null
  | bool b => .bool b
  | integer n => .number (Number.ofInt n)
  | fraction x => .number x
  | text s => .text s
  | array items => .list (toValues items)
  | object fields => .map (Fields.ofList (toFields fields))

/-- The values of some documents. -/
def toValues : List Json → List Value
  | [] => []
  | j :: js => toValue j :: toValues js

/-- The values of some fields, one for each. -/
def toFields : List (String × Json) → List (String × Value)
  | [] => []
  | (name, j) :: fields => (name, toValue j) :: toFields fields

end

/-- The document of a number: an integer if it is a safe one, null if it is not finite. -/
def ofNumber (x : Float) : Json :=
  if Number.isSafeInteger x then integer (Number.toInt x)
  else if x.isFinite then fraction x
  else null

mutual

/-- The document of a value.  A date becomes its written form. -/
def ofValue : Value → Json
  | .null => null
  | .bool b => bool b
  | .number x => ofNumber x
  | .text s => text s
  | .date t => text t.text
  | .list items => array (ofValues items)
  | .map fields => object (ofFields fields)

/-- The documents of some values. -/
def ofValues : List Value → List Json
  | [] => []
  | v :: vs => ofValue v :: ofValues vs

/-- The documents of some fields. -/
def ofFields : List (String × Value) → List (String × Json)
  | [] => []
  | (name, v) :: fields => (name, ofValue v) :: ofFields fields

end

end Json

namespace Value

/-- The text of a number in a document written straight from a value. -/
def serializeNumber (x : Float) : String :=
  if Number.isSafeInteger x then toString (Number.toInt x)
  else (Number.jsonFraction x).getD "null"

mutual

/-- The JSON text of a value, written without building the document. -/
def serialize : Value → String
  | null => "null"
  | bool b => if b then "true" else "false"
  | number x => serializeNumber x
  | text s => Json.quote s
  | date t => Json.quote t.text
  | list items => "[" ++ serializeItems items ++ "]"
  | map fields => "\x7b" ++ serializeFields fields ++ "\x7d"

/-- The JSON text of the items of a list. -/
def serializeItems : List Value → String
  | [] => ""
  | [v] => serialize v
  | v :: vs => serialize v ++ "," ++ serializeItems vs

/-- The JSON text of the fields of a map. -/
def serializeFields : List (String × Value) → String
  | [] => ""
  | [(name, v)] => Json.quote name ++ ":" ++ serialize v
  | (name, v) :: fields => Json.quote name ++ ":" ++ serialize v ++ "," ++ serializeFields fields

end

end Value
end ViewKit
