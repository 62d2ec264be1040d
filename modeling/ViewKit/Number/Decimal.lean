/-
# Decimals that read back as a given double

A positive double `m · 2 ^ q` is the only double in an interval of reals around it.  Its
shortest decimal is the point of the coarsest decimal grid that meets this interval and,
among the points of that grid, the one nearest to the double.  The search runs over the
grids of one, two, ... seventeen digits in exact natural arithmetic.

The file also lays decimals out as text: positionally, or with an exponent.
-/
import ViewKit.Number.Binary64

namespace ViewKit

/-- The decimal `digits · 10 ^ exponent`. -/
structure Decimal where
  digits : Nat
  exponent : Int
deriving DecidableEq

namespace Decimal

/-- Which of two equally near grid points stands for a double. -/
inductive Tie where
  /-- The greater one. -/
  | up
  /-- The one whose last digit is even. -/
  | even
deriving DecidableEq

/-- The reals that round to a positive double, scaled by `2 ^ 1076` so that the double and
both ends are natural numbers.  The ends belong to the interval if `closed`. -/
structure Interval where
  low : Nat
  value : Nat
  high : Nat
  closed : Bool

/-- One in the scale of an `Interval`. -/
def unit : Nat := Nat.pow 2 1076

/-- The interval of `m · 2 ^ q`: half way to the neighbour on each side.  The neighbour
below a power of two is only half as far as the one above. -/
def Interval.around (m : Nat) (q : Int) : Interval :=
  let scale := Nat.pow 2 (q - Binary64.leastExponent).toNat
  let below := if m = Nat.pow 2 52 ∧ q ≠ Binary64.leastExponent then 1 else 2
  ⟨(4 * m - below) * scale, 4 * m * scale, (4 * m + 2) * scale, m % 2 == 0⟩

/-- Whether a scaled number lies in the interval, everything multiplied by `factor`. -/
def Interval.contains (i : Interval) (factor x : Nat) : Bool :=
  if i.closed then i.low * factor ≤ x && x ≤ i.high * factor
  else i.low * factor < x && x < i.high * factor

/-- The point nearest to the double among the points of the grid `10 ^ e` in the interval. -/
def Interval.onGrid? (tie : Tie) (i : Interval) (e : Int) : Option Nat :=
  let factor := Nat.pow 10 (-e).toNat
  let step := Nat.pow 10 e.toNat * unit
  let lower := i.value * factor / step
  let rest := i.value * factor % step
  match i.contains factor (lower * step), i.contains factor ((lower + 1) * step) with
  | false, false => none
  | true, false => some lower
  | false, true => some (lower + 1)
  | true, true =>
    if 2 * rest < step then some lower
    else if step < 2 * rest then some (lower + 1)
    else match tie with
      | .up => some (lower + 1)
      | .even => some (if lower % 2 = 0 then lower else lower + 1)

/-- The number of decimal digits of a positive natural number. -/
def digitCount (n : Nat) : Nat := (Nat.toDigits 10 n).length

/-- The exponent of the first decimal digit of a scaled positive number. -/
def leadingExponent (value : Nat) : Int :=
  (digitCount (value * Nat.pow 10 330 / unit) : Int) - 331

/-- Moves trailing zeros of the digits into the exponent, at most `room` of them. -/
def trim : Nat → Decimal → Decimal
  | 0, d => d
  | room + 1, d =>
    if d.digits % 10 = 0 then trim room ⟨d.digits / 10, d.exponent + 1⟩ else d

/-- The shortest decimal that reads back as `m · 2 ^ q`, for `0 < m`. -/
def shortest (tie : Tie) (m : Nat) (q : Int) : Decimal :=
  let i := Interval.around m q
  let lead := leadingExponent i.value
  let found := (List.range 17).findSome? fun (n : Nat) =>
    let e := lead - n
    (i.onGrid? tie e).map fun digits => (⟨digits, e⟩ : Decimal)
  trim 20 (found.getD ⟨m, q⟩)

/-! ## Layouts -/

/-- A number of zeros. -/
def zeros (n : Nat) : String := "".pushn '0' n

/-- Digits with the decimal point where it belongs and no exponent. -/
def positional (d : Decimal) : String :=
  let text := toString d.digits
  if 0 ≤ d.exponent then text ++ zeros d.exponent.toNat
  else
    let fraction := (-d.exponent).toNat
    if fraction < text.length then
      let whole := text.length - fraction
      String.ofList (text.toList.take whole) ++ "." ++ String.ofList (text.toList.drop whole)
    else "0." ++ zeros (fraction - text.length) ++ text

/-- One digit before the decimal point and the exponent after an `e`. -/
def scientific (d : Decimal) : String :=
  match (toString d.digits).toList with
  | [] => ""
  | first :: rest =>
    let point := if rest.isEmpty then "" else "." ++ String.ofList rest
    String.singleton first ++ point ++ "e" ++ toString (d.exponent + rest.length)

end Decimal
end ViewKit
