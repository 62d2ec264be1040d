/-
# Instants and their written form

An instant is a number of milliseconds since the start of 1970.  Its written form is the
date and the time of day in universal time, in the proleptic Gregorian calendar, with
milliseconds: `2024-05-01T10:00:00.000Z`.  A year outside 0 to 9999 carries a sign.
-/

namespace ViewKit

/-- A point in time, in milliseconds since the start of 1970. -/
structure Instant where
  milliseconds : Int
deriving DecidableEq

/-- A day of the proleptic Gregorian calendar; months and days count from one. -/
structure Day where
  year : Int
  month : Nat
  day : Nat
deriving DecidableEq

/-- The day that lies a number of days after the first of January 1970.  The years of the
computation start in March, so that a leap day is the last day of its year, and 400 of them
make an era of 146097 days. -/
def Day.ofDays (days : Int) : Day :=
  let shifted := days + 719468
  let era := Int.fdiv shifted 146097
  let dayOfEra := (Int.fmod shifted 146097).toNat
  let yearOfEra :=
    (dayOfEra - dayOfEra / 1460 + dayOfEra / 36524 - dayOfEra / 146096) / 365
  let dayOfYear := dayOfEra - (365 * yearOfEra + yearOfEra / 4 - yearOfEra / 100)
  let fromMarch := (5 * dayOfYear + 2) / 153
  let day := dayOfYear - (153 * fromMarch + 2) / 5 + 1
  let month := if fromMarch < 10 then fromMarch + 3 else fromMarch - 9
  let year : Int := yearOfEra + era * 400 + (if month ≤ 2 then 1 else 0)
  ⟨year, month, day⟩

/-- A natural number with at least `width` digits. -/
def paddedText (width n : Nat) : String :=
  let text := toString n
  "".pushn '0' (width - text.length) ++ text

/-- A year, with a sign if it does not have four digits or is negative. -/
def yearText (year : Int) : String :=
  if 0 ≤ year ∧ year ≤ 9999 then paddedText 4 year.toNat
  else (if year < 0 then "-" else "+") ++ paddedText 4 year.natAbs

/-- The written form of an instant. -/
def Instant.text (t : Instant) : String :=
  let day := Day.ofDays (Int.fdiv t.milliseconds 86400000)
  let ms := (Int.fmod t.milliseconds 86400000).toNat
  yearText day.year ++ "-" ++ paddedText 2 day.month ++ "-" ++ paddedText 2 day.day ++ "T" ++
    paddedText 2 (ms / 3600000) ++ ":" ++ paddedText 2 (ms / 60000 % 60) ++ ":" ++
    paddedText 2 (ms / 1000 % 60) ++ "." ++ paddedText 3 (ms % 1000) ++ "Z"

end ViewKit
