import SearchQuery.Value.Literal

/-!
# Stamps

A stamp is the date and the time of day in universal time. A line of the log starts with one, and
the name of a log file ends with one. A clock gives a stamp to everything that happens.
-/

namespace SearchQuery
namespace Log

/-- The year, the month and the day of the day that is `days` after the first of January 1970. Years
are first taken to begin in March, so that the leap day is the last of its year. -/
def dateOf (days : Int) : Int × Nat × Nat :=
  let shifted := days + 719468
  let era := Int.fdiv shifted 146097
  let dayOfEra := shifted - era * 146097
  let yearOfEra := (dayOfEra - dayOfEra / 1460 + dayOfEra / 36524 - dayOfEra / 146096) / 365
  let dayOfYear := dayOfEra - (365 * yearOfEra + yearOfEra / 4 - yearOfEra / 100)
  let month := (5 * dayOfYear + 2) / 153
  let day := dayOfYear - (153 * month + 2) / 5 + 1
  let year := 400 * era + yearOfEra
  if month < 10 then (year, (month + 3).toNat, day.toNat)
  else (year + 1, (month - 9).toNat, day.toNat)

/-- A moment without its year, as lines of the log show it and as names of files spell it. -/
structure Stamp where
  shown : Text
  digits : Text
  deriving DecidableEq, Repr

namespace Stamp

/-- The stamp of a moment, in seconds from the beginning of 1970. -/
def ofSeconds (seconds : Int) : Stamp :=
  let days := Int.fdiv seconds 86400
  let second := (seconds - days * 86400).toNat
  let (_, month, day) := dateOf days
  let date := [month, day].map (Text.padded 2)
  let time := [second / 3600, second / 60 % 60, second % 60].map (Text.padded 2)
  { shown := Text.joinWith "-" date ++ " " ++ Text.joinWith ":" time
    digits := (date ++ time).flatten }

/-- Why a moment has no stamp: it or its year is too far away to be counted, or the calendar ends
before it. -/
inductive Unreachable where
  | uncountable
  | offTheCalendar
  deriving DecidableEq, Repr

/-- Seconds are counted in 64 bits. Years are counted in 32 bits, both from 1900, as the calendar
does it, and from the year 0. -/
def ofSeconds? (seconds : Int) : Except Unreachable Stamp :=
  let (year, _) := dateOf (Int.fdiv seconds 86400)
  if seconds < Int64.minValue.toInt ∨ Int64.maxValue.toInt < seconds then .error .uncountable
  else if year - 1900 < Int32.minValue.toInt ∨ Int32.maxValue.toInt < year - 1900 then
    .error .offTheCalendar
  else if Int32.maxValue.toInt < year then .error .uncountable
  else .ok (ofSeconds seconds)

end Stamp

/-- The stamps of what happens one after the other. -/
abbrev Clock := Nat → Stamp

def Clock.ofSeconds (seconds : Nat → Int) : Clock := fun n => .ofSeconds (seconds n)
end Log
end SearchQuery
