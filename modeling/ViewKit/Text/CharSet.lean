/-
# Sets of characters

A set of characters is kept as its ranges in increasing order and searched by halving.
Ranges are written as hexadecimal numbers, `first-last` or one number for a single
character, with spaces or line feeds between them.
-/

namespace ViewKit.Text

/-- A set of characters by its ranges, both ends included, in increasing order. -/
structure CharSet where
  ranges : Array (Nat × Nat)

namespace CharSet

/-- The value of a hexadecimal digit. -/
def hexValue (c : Char) : Nat :=
  if c.isDigit then c.toNat - '0'.toNat
  else if 'a' ≤ c ∧ c ≤ 'f' then c.toNat - 'a'.toNat + 10
  else if 'A' ≤ c ∧ c ≤ 'F' then c.toNat - 'A'.toNat + 10
  else 0

/-- The number written by hexadecimal digits. -/
def hexNumber (ds : List Char) : Nat := ds.foldl (fun n c => 16 * n + hexValue c) 0

/-- One character of a table as it is read: `numbers` holds the finished ranges, `low` the
first end of the range being read if it is known, and `current` the number being read. -/
structure Reading where
  ranges : Array (Nat × Nat)
  low : Option Nat
  current : Option Nat

/-- Reads one character of a table of ranges. -/
def Reading.step (r : Reading) (c : Char) : Reading :=
  if c == '-' then ⟨r.ranges, r.current, none⟩
  else if c == ' ' || c == '\n' then
    match r.low, r.current with
    | some low, some high => ⟨r.ranges.push (low, high), none, none⟩
    | none, some one => ⟨r.ranges.push (one, one), none, none⟩
    | _, none => ⟨r.ranges, none, none⟩
  else ⟨r.ranges, r.low, some (16 * r.current.getD 0 + hexValue c)⟩

/-- The set that a table of ranges describes. -/
def ofTable (table : String) : CharSet :=
  ⟨((table.foldl Reading.step ⟨#[], none, none⟩).step ' ').ranges⟩

/-- Searches the ranges with numbers from `low` up to but not including `high`, halving
their number at most `rounds` times. -/
def search (ranges : Array (Nat × Nat)) (n : Nat) : Nat → Nat → Nat → Bool
  | 0, _, _ => false
  | rounds + 1, low, high =>
    if low < high then
      let middle := (low + high) / 2
      match ranges[middle]? with
      | none => false
      | some (first, last) =>
        if n < first then search ranges n rounds low middle
        else if last < n then search ranges n rounds (middle + 1) high
        else true
    else false

/-- Whether a character belongs to the set. -/
def contains (s : CharSet) (c : Char) : Bool :=
  search s.ranges c.toNat 32 0 s.ranges.size

end CharSet
end ViewKit.Text
