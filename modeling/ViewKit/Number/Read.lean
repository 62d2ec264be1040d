/-
# Reading numbers

The text of a number is an optional sign and then `inf`, `infinity` or `nan` in any case,
or decimal digits with at most one point among them and an optional exponent; the digits
are in front of the point, behind it or both.  The value is the nearest double.
-/
import ViewKit.Number.Binary64

namespace ViewKit.Number

/-- The value of a decimal digit. -/
def digitValue (c : Char) : Nat := c.toNat - '0'.toNat

/-- The natural number written by decimal digits. -/
def digitsValue (ds : List Char) : Nat := ds.foldl (fun n c => 10 * n + digitValue c) 0

/-- The double nearest to `digits · 10 ^ exponent`, infinite when beyond the greatest one. -/
def ofDecimal (digits : List Char) (exponent : Int) : Float :=
  let digits := digits.dropWhile (· == '0')
  if digits.isEmpty then Number.ofNat 0
  else
    let magnitude := exponent + digits.length
    if magnitude > 400 then (Binary64.infinite false).toFloat
    else if magnitude < -400 then Number.ofNat 0
    else if 0 ≤ exponent then Float.ofScientific (digitsValue digits) false exponent.toNat
    else Float.ofScientific (digitsValue digits) true (-exponent).toNat

/-- An exponent after the letter that announces it. -/
def readExponent? : List Char → Option Int
  | [] => some 0
  | c :: rest =>
    if c == 'e' || c == 'E' then
      let (negative, ds) := match rest with
        | '-' :: ds => (true, ds)
        | '+' :: ds => (false, ds)
        | ds => (false, ds)
      if !ds.isEmpty && ds.all Char.isDigit then
        some (if negative then -(digitsValue ds : Int) else digitsValue ds)
      else none
    else none

/-- An unsigned number made of digits. -/
def readDigits? (cs : List Char) : Option Float :=
  let whole := cs.takeWhile Char.isDigit
  let (fraction, rest) := match cs.dropWhile Char.isDigit with
    | '.' :: rest => (rest.takeWhile Char.isDigit, rest.dropWhile Char.isDigit)
    | rest => ([], rest)
  if whole.isEmpty && fraction.isEmpty then none
  else (readExponent? rest).map fun e => ofDecimal (whole ++ fraction) (e - fraction.length)

/-- An unsigned number: a name of one that is not finite, or digits. -/
def readUnsigned? (cs : List Char) : Option Float :=
  let name := String.ofList (cs.map Char.toLower)
  if name == "inf" || name == "infinity" then some (Binary64.infinite false).toFloat
  else if name == "nan" then some Binary64.nan.toFloat
  else readDigits? cs

/-- Reads the whole text as a number. -/
def read? : List Char → Option Float
  | '-' :: cs => (readUnsigned? cs).map (- ·)
  | '+' :: cs => readUnsigned? cs
  | cs => readUnsigned? cs

end ViewKit.Number
