/-
# The exact content of a double

A finite double stands for `± mantissa · 2 ^ exponent` with natural `mantissa`.  This file
reads those parts off the bit pattern and writes them back, and gives the operations on
doubles that have to be exact: being a whole number, the whole part, and the remainder of
a division with the sign of the dividend.
-/

namespace ViewKit

/-- What the bit pattern of a double stands for. -/
inductive Binary64 where
  /-- Not a number. -/
  | nan
  /-- An infinity with its sign. -/
  | infinite (negative : Bool)
  /-- The number `± mantissa · 2 ^ exponent`; zero keeps its sign. -/
  | finite (negative : Bool) (mantissa : Nat) (exponent : Int)
deriving DecidableEq

namespace Binary64

/-- The least exponent of a double; every finite double is a multiple of `2 ^ leastExponent`. -/
def leastExponent : Int := -1074

/-- The parts of a 64-bit pattern: one sign bit, eleven exponent bits, 52 mantissa bits. -/
def ofBits (bits : Nat) : Binary64 :=
  let negative := bits / Nat.pow 2 63 % 2 == 1
  let biased : Nat := bits / Nat.pow 2 52 % Nat.pow 2 11
  let fraction := bits % Nat.pow 2 52
  if biased = 2047 then
    if fraction = 0 then infinite negative else nan
  else if biased = 0 then finite negative fraction leastExponent
  else finite negative (Nat.pow 2 52 + fraction) ((biased : Int) - 1075)

/-- The parts of a double. -/
def ofFloat (x : Float) : Binary64 := ofBits x.toBits.toNat

/-- Doubles the mantissa at most `room` times, as long as it stays below `2 ^ 53`. -/
def widen : Nat → Nat → Int → Nat × Int
  | 0, m, q => (m, q)
  | room + 1, m, q => if m < Nat.pow 2 52 then widen room (2 * m) (q - 1) else (m, q)

/-- The bit pattern of some parts.  A finite number has to be a double already: its
mantissa below `2 ^ 53` and its exponent at least `leastExponent`. -/
def toBits : Binary64 → Nat
  | nan => 0x7ff8000000000000
  | infinite negative => negative.toNat * Nat.pow 2 63 + 2047 * Nat.pow 2 52
  | finite negative mantissa exponent =>
    let (m, q) := widen (min 53 (exponent - leastExponent).toNat) mantissa exponent
    let biased := if m < Nat.pow 2 52 then 0 else (q + 1075).toNat
    negative.toNat * Nat.pow 2 63 + biased * Nat.pow 2 52 + m % Nat.pow 2 52

/-- The double with the given parts. -/
def toFloat (x : Binary64) : Float := Float.ofBits (UInt64.ofNat x.toBits)

/-- Whether the number is finite and whole. -/
def isWhole : Binary64 → Bool
  | finite _ mantissa exponent => mantissa % Nat.pow 2 (-exponent).toNat == 0
  | _ => false

/-- The whole part of the absolute value, zero where there is none. -/
def wholePart : Binary64 → Nat
  | finite _ mantissa exponent =>
    mantissa * Nat.pow 2 exponent.toNat / Nat.pow 2 (-exponent).toNat
  | _ => 0

/-- Whether the sign bit of a number is set; not a number has none. -/
def isNegative : Binary64 → Bool
  | nan => false
  | infinite negative => negative
  | finite negative _ _ => negative

/-- The remainder of a division that truncates towards zero.  It is exact and has the sign
of the dividend; an infinite dividend and a zero divisor have no remainder. -/
def remainder : Binary64 → Binary64 → Binary64
  | finite s m q, finite _ n p =>
    if n = 0 then nan
    else
      let least := min q p
      finite s (m * Nat.pow 2 (q - least).toNat % (n * Nat.pow 2 (p - least).toNat)) least
  | finite s m q, infinite _ => finite s m q
  | _, _ => nan

end Binary64

namespace Number

/-- Whether a double is a whole number. -/
def isWhole (x : Float) : Bool := (Binary64.ofFloat x).isWhole

/-- The whole part of the absolute value of a double. -/
def wholePart (x : Float) : Nat := (Binary64.ofFloat x).wholePart

/-- The double nearest to a natural number. -/
def ofNat (n : Nat) : Float := Float.ofNat n

/-- The double nearest to an integer. -/
def ofInt (n : Int) : Float := Float.ofInt n

/-- The exact remainder of two doubles, with the sign of the first. -/
def remainder (x y : Float) : Float :=
  ((Binary64.ofFloat x).remainder (Binary64.ofFloat y)).toFloat

/-- Equality of numbers as data: not a number equals itself, and the two zeros are equal. -/
def same (x y : Float) : Bool := x == y || (x.isNaN && y.isNaN)

/-- The order of two doubles; not a number has no place in it. -/
def order? (x y : Float) : Option Ordering :=
  if x < y then some .lt else if x == y then some .eq else if y < x then some .gt else none

end Number
end ViewKit
