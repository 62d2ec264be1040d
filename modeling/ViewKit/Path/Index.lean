/-
# Paths and indices

A path is a text that addresses a part of a value: names of map fields and indices of list
items with dots between them.  The empty path addresses the value itself.

An index is written in decimal digits, perhaps behind a plus sign, and fits into a 64-bit
word.
-/
import ViewKit.Number.Read
import ViewKit.Text.Split

namespace ViewKit.Path

/-- The segments of a path; the empty path has none. -/
def segments (path : String) : List String :=
  if path.isEmpty then [] else (Text.splitAt '.' path.toList).map String.ofList

/-- The index written by some characters. -/
def indexOfDigits? (ds : List Char) : Option Nat :=
  let n := Number.digitsValue ds
  if !ds.isEmpty && ds.all Char.isDigit && n < Nat.pow 2 64 then some n else none

/-- The index that a segment denotes, if it does. -/
def index? (segment : String) : Option Nat :=
  match segment.toList with
  | '+' :: ds => indexOfDigits? ds
  | ds => indexOfDigits? ds

end ViewKit.Path
