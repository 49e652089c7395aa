import SearchQuery.Yaml.Cursor

/-!
# Timestamps

Dates, and moments of a date, a time of day and perhaps a zone, which are offsets from universal
time of less than a day.
-/

namespace SearchQuery
namespace Yaml

/-- A time of day with a fraction of a second as written, and the minutes that its zone is ahead of
universal time, if it has a zone. -/
structure TimeOfDay where
  hour : Nat
  minute : Nat
  second : Nat
  fraction : Text
  zone : Option Int

/-- What a timestamp says, in calendar terms. -/
structure Timestamp where
  year : Nat
  month : Nat
  day : Nat
  time : Option TimeOfDay

namespace Timestamp

/-- Between `least` and `most` digits at the start of a text, as many as there are. -/
def digits? (least most : Nat) (t : Text) : Option (Nat × Text) :=
  let ds := (t.take most).takeWhile Char.isDigit
  if ds.length < least then none
  else some (ds.foldl (fun n d => 10 * n + (d.toNat - '0'.toNat)) 0, t.drop ds.length)

def expect? (c : Char) (t : Text) : Option Text :=
  match t with
  | d :: rest => if c = d then some rest else none
  | [] => none

/-- A zone that takes up the whole text: nothing, `Z`, or hours and minutes after a sign. -/
def zone? (t : Text) : Option (Option Int) :=
  match t with
  | [] => some none
  | ['Z'] => some (some 0)
  | sign :: rest =>
    if sign ≠ '+' ∧ sign ≠ '-' then none
    else do
      let (hours, rest) ← digits? 1 2 rest
      let minutes ← match rest with
        | [] => some 0
        | _ => do
          let (minutes, rest) ← digits? 2 2 (← expect? ':' rest)
          if rest.isEmpty then some minutes else none
      let offset : Int := 60 * hours + minutes
      return some (if sign = '-' then -offset else offset)

/-- A time of day that takes up the whole text. -/
def timeOfDay? (t : Text) : Option TimeOfDay := do
  let (hour, rest) ← digits? 1 2 t
  let (minute, rest) ← digits? 2 2 (← expect? ':' rest)
  let (second, rest) ← digits? 2 2 (← expect? ':' rest)
  let (fraction, rest) := match rest with
    | '.' :: rest => (rest.takeWhile Char.isDigit, rest.dropWhile Char.isDigit)
    | _ => ([], rest)
  let zone ← zone? (rest.dropWhile isSpaceOrTab)
  if zone.isNone && !rest.isEmpty then none
  else return ⟨hour, minute, second, fraction, zone⟩

/-- What separates a date from a time: a letter, or blanks. -/
def afterSeparator? (t : Text) : Option Text :=
  match t with
  | 'T' :: rest | 't' :: rest => some rest
  | c :: rest => if isSpaceOrTab c then some (rest.dropWhile isSpaceOrTab) else none
  | [] => none

/-- A timestamp that takes up the whole text. -/
def ofText? (t : Text) : Option Timestamp := do
  let (year, rest) ← digits? 4 4 t
  let (month, rest) ← digits? 1 2 (← expect? '-' rest)
  let (day, rest) ← digits? 1 2 (← expect? '-' rest)
  if rest.isEmpty then return ⟨year, month, day, none⟩
  else return ⟨year, month, day, some (← timeOfDay? (← afterSeparator? rest))⟩

/-- Whether a text is a timestamp without further ado: a date alone needs all its digits. -/
def isPlain (t : Text) : Bool :=
  match ofText? t with
  | some ⟨_, _, _, none⟩ => t.length == 10
  | some _ => true
  | none => false

def isLeapYear (year : Nat) : Bool := year % 4 == 0 && (year % 100 != 0 || year % 400 == 0)

def daysInMonth (year month : Nat) : Nat :=
  if month = 2 then (if isLeapYear year then 29 else 28)
  else if month = 4 ∨ month = 6 ∨ month = 9 ∨ month = 11 then 30
  else 31

/-- The number of days before a date, counted from the first of January of the year 1. -/
def dayNumber (year month day : Nat) : Nat :=
  let y := year - 1
  let months := (List.range (month - 1)).map fun m => daysInMonth year (m + 1)
  365 * y + y / 4 - y / 100 + y / 400 + months.foldl (· + ·) 0 + (day - 1)

def isDate (t : Timestamp) : Bool :=
  1 ≤ t.year && 1 ≤ t.month && t.month ≤ 12 && 1 ≤ t.day && t.day ≤ daysInMonth t.year t.month

/-- Whether a time of day is on the clock and its zone within a day. -/
def isTime (t : TimeOfDay) : Bool :=
  t.hour < 24 && t.minute < 60 && t.second < 60 && t.zone.all fun z => z.natAbs < 24 * 60

/-- The first six digits of a fraction, filled up with zeros. -/
def microseconds (fraction : Text) : Nat :=
  ((fraction ++ List.replicate 6 '0').take 6).foldl
    (fun n d => 10 * n + (d.toNat - '0'.toNat)) 0

/-- Microseconds from the beginning of the year 1 to a moment, in universal time if it has a
zone. -/
def instant (t : Timestamp) (time : TimeOfDay) : Int :=
  let minutes : Int := 24 * 60 * dayNumber t.year t.month t.day + 60 * time.hour + time.minute
  let minutes := minutes - time.zone.getD 0
  (minutes * 60 + time.second) * 1000000 + microseconds time.fraction

end Timestamp
end Yaml
end SearchQuery
