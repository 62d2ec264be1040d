/-
# Numbers as text

Two ways to write a double.  For people, and in markup: whole numbers below `10 ^ 21` with
all their digits, others with the fewest digits that read back, always positionally.  In
JSON: safe whole numbers as integers, others with the fewest digits, positionally from
`10 ^ -5` up to `10 ^ 16` and with an exponent beyond.
-/
import ViewKit.Number.Decimal

namespace ViewKit.Number

/-- The fewest digits that read back as a finite double, positionally, a half going up.
Zero keeps its sign. -/
def shortestText (x : Float) : String :=
  match Binary64.ofFloat x with
  | .nan => "NaN"
  | .infinite negative => if negative then "-inf" else "inf"
  | .finite negative m q =>
    let sign := if negative then "-" else ""
    if m = 0 then sign ++ "0" else sign ++ (Decimal.shortest .up m q).positional

/-- The text of a number in markup and in messages. -/
def display (x : Float) : String :=
  match Binary64.ofFloat x with
  | .nan => "NaN"
  | .infinite negative => if negative then "-Infinity" else "Infinity"
  | .finite negative m q =>
    let sign := if negative then "-" else ""
    let whole := (Binary64.finite negative m q).wholePart
    if m = 0 then "0"
    else if (Binary64.finite negative m q).isWhole && whole < Nat.pow 10 21 then sign ++ toString whole
    else sign ++ (Decimal.shortest .up m q).positional

/-- A whole number of absolute value below `2 ^ 53` travels as an integer. -/
def isSafeInteger (x : Float) : Bool := isWhole x && wholePart x < Nat.pow 2 53

/-- A safe integer; zero has no sign. -/
def toInt (x : Float) : Int :=
  if (Binary64.ofFloat x).isNegative then -(wholePart x : Int) else wholePart x

/-- The text of a number in JSON that is not written as an integer; only finite numbers
have one. -/
def jsonFraction (x : Float) : Option String :=
  match Binary64.ofFloat x with
  | .finite negative m q =>
    let sign := if negative then "-" else ""
    if m = 0 then some (sign ++ "0.0")
    else
      let d := Decimal.shortest .even m q
      let point := d.exponent + Decimal.digitCount d.digits
      if -5 < point ∧ point ≤ 16 then
        some (sign ++ d.positional ++ if 0 ≤ d.exponent then ".0" else "")
      else some (sign ++ d.scientific)
  | _ => none

end ViewKit.Number
