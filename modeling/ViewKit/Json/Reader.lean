/-
# Reading JSON text

The reader accepts exactly one document with blanks around it.  Containers nest at most 127
deep, a string holds no control characters and no lone halves of surrogate pairs, and a
number that no double can hold is refused.

A number with a fraction or an exponent is read as its first digits, as many as fit into a
64-bit word, scaled by one power of ten.
-/
import ViewKit.Json.Basic
import ViewKit.Number.Read
import ViewKit.Text.CharSet

namespace ViewKit.Json

/-- The four characters that may stand between the tokens of a document. -/
def isSpace (c : Char) : Bool := c == ' ' || c == '\n' || c == '\t' || c == '\r'

def skipSpaces (cs : List Char) : List Char := cs.dropWhile isSpace

/-! ## Numbers -/

/-- The leading digits of a number that fit into a 64-bit word, and how many digits were
left out behind them. -/
structure Significand where
  value : Nat
  dropped : Nat

/-- One more digit: it counts as left out once a digit did not fit. -/
def Significand.push (s : Significand) (c : Char) : Significand :=
  let next := 10 * s.value + Number.digitValue c
  if s.dropped = 0 ∧ next < Nat.pow 2 64 then ⟨next, 0⟩ else ⟨s.value, s.dropped + 1⟩

def Significand.ofDigits (ds : List Char) : Significand := ds.foldl Significand.push ⟨0, 0⟩

/-- The nearest double to a power of ten that has one. -/
def powerOfTen (n : Nat) : Float := Float.ofScientific 1 false n

/-- Scales down by steps of `10 ^ 308` until one division is left. -/
def scaleDown : Nat → Float → Nat → Float
  | 0, x, _ => x
  | steps + 1, x, n =>
    if n ≤ 308 then x / powerOfTen n
    else if x == 0 then x
    else scaleDown steps (x / powerOfTen 308) (n - 308)

/-- A significand scaled by a power of ten, unless the result is too large for a double. -/
def scale? (significand : Nat) (exponent : Int) : Option Float :=
  let x := Number.ofNat significand
  if exponent < 0 then some (scaleDown 4 x (-exponent).toNat)
  else if exponent ≤ 308 then
    let y := x * powerOfTen exponent.toNat
    if y.isFinite then some y else none
  else if significand = 0 then some x
  else none

/-- The exponent of a number behind the letter that announces it. -/
def readExponent? (cs : List Char) : Option (Int × List Char) :=
  let (negative, cs) := match cs with
    | '-' :: cs => (true, cs)
    | '+' :: cs => (false, cs)
    | cs => (false, cs)
  let ds := cs.takeWhile Char.isDigit
  if ds.isEmpty then none
  else
    let n : Int := Number.digitsValue ds
    some (if negative then -n else n, cs.dropWhile Char.isDigit)

/-- A number from its digits in front of the point, those behind it and its exponent.  What
does not fit into the significand behind the point is cut off. -/
def number? (negative : Bool) (whole fraction : List Char) (exponent : Option Int) :
    Option Json :=
  let sign (x : Float) : Float := if negative then -x else x
  let front := Significand.ofDigits whole
  if fraction.isEmpty && exponent.isNone && front.dropped = 0 then
    if negative && (front.value = 0 || Nat.pow 2 63 < front.value) then
      some (.fraction (sign (Number.ofNat front.value)))
    else some (integer (if negative then -(front.value : Int) else front.value))
  else
    let all := fraction.foldl Significand.push ⟨front.value, 0⟩
    let behind : Int := (front.dropped : Int) - (fraction.length - all.dropped : Nat)
    (scale? all.value (behind + exponent.getD 0)).map fun x => .fraction (sign x)

/-- Reads an unsigned number. -/
def readUnsigned? (negative : Bool) (cs : List Char) : Option (Json × List Char) := do
  let whole := cs.takeWhile Char.isDigit
  let rest := cs.dropWhile Char.isDigit
  if whole.isEmpty || (whole.length > 1 && whole.head? == some '0') then none
  let (behind, rest) ← match rest with
    | '.' :: rest =>
      let ds := rest.takeWhile Char.isDigit
      if ds.isEmpty then none else some (ds, rest.dropWhile Char.isDigit)
    | rest => some ([], rest)
  let (exponent, rest) ← match rest with
    | 'e' :: rest => (readExponent? rest).map fun (n, rest) => (some n, rest)
    | 'E' :: rest => (readExponent? rest).map fun (n, rest) => (some n, rest)
    | rest => some (none, rest)
  let n ← number? negative whole behind exponent
  return (n, rest)

/-- Reads a number. -/
def readNumber? : List Char → Option (Json × List Char)
  | '-' :: cs => readUnsigned? true cs
  | cs => readUnsigned? false cs

/-! ## Strings -/

def isHexDigit (c : Char) : Bool :=
  c.isDigit || ('a' ≤ c && c ≤ 'f') || ('A' ≤ c && c ≤ 'F')

/-- Four hexadecimal digits. -/
def readHex? : List Char → Option (Nat × List Char)
  | a :: b :: c :: d :: cs =>
    if [a, b, c, d].all isHexDigit then some (Text.CharSet.hexNumber [a, b, c, d], cs) else none
  | _ => none

/-- The character of an escape that names its number.  The first half of a surrogate pair
has to be followed by the second one. -/
def readUnicode? (cs : List Char) : Option (Char × List Char) := do
  let (n, rest) ← readHex? cs
  if 0xdc00 ≤ n ∧ n ≤ 0xdfff then none
  else if 0xd800 ≤ n ∧ n ≤ 0xdbff then
    match rest with
    | '\\' :: 'u' :: rest =>
      let (m, rest) ← readHex? rest
      if 0xdc00 ≤ m ∧ m ≤ 0xdfff then
        return (Char.ofNat (0x10000 + (n - 0xd800) * 0x400 + (m - 0xdc00)), rest)
      else none
    | _ => none
  else return (Char.ofNat n, rest)

/-- The character of an escape behind its backslash. -/
def readEscape? : List Char → Option (Char × List Char)
  | '"' :: cs => some ('"', cs)
  | '\\' :: cs => some ('\\', cs)
  | '/' :: cs => some ('/', cs)
  | 'b' :: cs => some ('\x08', cs)
  | 'f' :: cs => some ('\x0c', cs)
  | 'n' :: cs => some ('\n', cs)
  | 'r' :: cs => some ('\r', cs)
  | 't' :: cs => some ('\t', cs)
  | 'u' :: cs => readUnicode? cs
  | _ => none

/-- The characters of a string up to its closing quote; at most `room` of them. -/
def readCharacters? : Nat → List Char → Option (List Char × List Char)
  | 0, _ => none
  | room + 1, cs =>
    match cs with
    | [] => none
    | '"' :: rest => some ([], rest)
    | '\\' :: rest => do
      let (c, rest) ← readEscape? rest
      let (s, rest) ← readCharacters? room rest
      return (c :: s, rest)
    | c :: rest =>
      if c.toNat < 0x20 then none
      else do
        let (s, rest) ← readCharacters? room rest
        return (c :: s, rest)

/-- Reads a string behind its opening quote. -/
def readString? (cs : List Char) : Option (String × List Char) :=
  (readCharacters? (cs.length + 1) cs).map fun (s, rest) => (String.ofList s, rest)

/-! ## Documents -/

/-- The items of an array behind the opening bracket or a comma, at most `room` of them. -/
def readItems? (value : List Char → Option (Json × List Char)) :
    Nat → List Char → Option (List Json × List Char)
  | 0, _ => none
  | room + 1, cs => do
    let (j, rest) ← value (skipSpaces cs)
    match skipSpaces rest with
    | ',' :: rest =>
      let (js, rest) ← readItems? value room rest
      return (j :: js, rest)
    | ']' :: rest => return ([j], rest)
    | _ => none

/-- The fields of an object behind the opening brace or a comma, at most `room` of them. -/
def readFields? (value : List Char → Option (Json × List Char)) :
    Nat → List Char → Option (List (String × Json) × List Char)
  | 0, _ => none
  | room + 1, cs =>
    match skipSpaces cs with
    | '"' :: rest => do
      let (name, rest) ← readString? rest
      match skipSpaces rest with
      | ':' :: rest =>
        let (j, rest) ← value (skipSpaces rest)
        match skipSpaces rest with
        | ',' :: rest =>
          let (fields, rest) ← readFields? value room rest
          return ((name, j) :: fields, rest)
        | '\x7d' :: rest => return ([(name, j)], rest)
        | _ => none
      | _ => none
    | _ => none

/-- Reads a document in front of which no blanks stand, with containers at most `depth`
deep. -/
def readValue? : Nat → List Char → Option (Json × List Char)
  | _, 'n' :: 'u' :: 'l' :: 'l' :: rest => some (null, rest)
  | _, 't' :: 'r' :: 'u' :: 'e' :: rest => some (bool true, rest)
  | _, 'f' :: 'a' :: 'l' :: 's' :: 'e' :: rest => some (bool false, rest)
  | _, '"' :: rest => (readString? rest).map fun (s, rest) => (text s, rest)
  | depth + 1, '[' :: rest =>
    match skipSpaces rest with
    | ']' :: rest => some (array [], rest)
    | rest =>
      (readItems? (readValue? depth) (rest.length + 1) rest).map fun (js, rest) =>
        (array js, rest)
  | depth + 1, '\x7b' :: rest =>
    match skipSpaces rest with
    | '\x7d' :: rest => some (object [], rest)
    | rest =>
      (readFields? (readValue? depth) (rest.length + 1) rest).map fun (fields, rest) =>
        (object fields, rest)
  | _, cs => readNumber? cs

/-- How deep the containers of a document may nest. -/
def depthLimit : Nat := 127

/-- Reads a text that holds one document. -/
def read? (s : String) : Option Json :=
  match readValue? depthLimit (skipSpaces s.toList) with
  | some (j, rest) => if (skipSpaces rest).isEmpty then some j else none
  | none => none

end ViewKit.Json
