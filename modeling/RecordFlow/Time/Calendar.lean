import RecordFlow.Time.Duration

/-!
# Calendar — moments and their dates

A moment is a count of seconds since the start of 1970 and a part of a second.  At the end of a
minute a leap second may follow: it counts as a part above one second.  The date of a moment is that
of the proleptic Gregorian calendar, counted in eras of 400 years which start with a first of March,
so that the leap day is the last of its year.
-/

namespace RecordFlow

/-- A moment in time; `nanos` stays below one second, or below two in a leap second. -/
structure Moment where
  secs : Int
  nanos : Nat
deriving DecidableEq, Repr, Inhabited

namespace Calendar

structure Date where
  year : Int
  month : Nat
  day : Nat
deriving DecidableEq, Repr

/-- Days from the start of the first era to the start of 1970. -/
def epochDay : Int := 719468

def daysPerEra : Nat := 146097

/-- The year of an era that a day of the era belongs to. -/
def yearOfEra (day : Nat) : Nat :=
  (day - day / 1460 + day / 36524 - day / 146096) / 365

/-- The date of a day counted from the start of 1970. -/
def dateOfDay (day : Int) : Date :=
  let shifted := day + epochDay
  let era := shifted / daysPerEra
  let dayOfEra := (shifted % daysPerEra).toNat
  let year := yearOfEra dayOfEra
  let dayOfYear := dayOfEra - (365 * year + year / 4 - year / 100)
  let month := (5 * dayOfYear + 2) / 153
  let day := dayOfYear - (153 * month + 2) / 5 + 1
  let calendarMonth := if month < 10 then month + 3 else month - 9
  ⟨era * 400 + year + (if calendarMonth ≤ 2 then 1 else 0), calendarMonth, day⟩

def padded (width n : Nat) : String :=
  let digits := Nat.toDigits 10 n
  String.ofList (List.replicate (width - digits.length) '0' ++ digits)

/-- A year has four digits, and a sign when that is not enough. -/
def yearText (year : Int) : String :=
  if 0 ≤ year ∧ year ≤ 9999 then padded 4 year.toNat
  else if year < 0 then "-" ++ padded 4 (-year).toNat
  else "+" ++ padded 4 year.toNat

/-- A part of a second with as many groups of three digits as it needs. -/
def fractionText (nanos : Nat) : String :=
  if nanos = 0 then ""
  else if nanos % 1000000 = 0 then "." ++ padded 3 (nanos / 1000000)
  else if nanos % 1000 = 0 then "." ++ padded 6 (nanos / 1000)
  else "." ++ padded 9 nanos

end Calendar

namespace Moment

def secsPerDay : Nat := 86400

def nanosPerSec : Nat := 1000000000

/-- The first day of the year -262143, counted from the start of 1970. -/
def firstDay : Int := -96465292

/-- The last day of the year 262142, counted from the start of 1970. -/
def lastDay : Int := 95026236

/-- The moment at a distance from the start of 1970, unless it lies outside the years of the
calendar or has a part of a second that no clock shows. -/
def ofEpoch? (secs : Int) (nanos : Nat) : Option Moment :=
  let day := secs / secsPerDay
  let isLeap := nanosPerSec ≤ nanos
  if day < firstDay ∨ lastDay < day then none
  else if 2 * nanosPerSec ≤ nanos ∨ (isLeap ∧ secs % 60 ≠ 59) then none
  else some ⟨secs, nanos⟩

/-- Date and time of day in universal time, with `zone` as the name of the zone. -/
def text (m : Moment) (zone : String) : String :=
  let date := Calendar.dateOfDay (m.secs / secsPerDay)
  let second := (m.secs % secsPerDay).toNat
  let two := Calendar.padded 2
  Calendar.yearText date.year ++ "-" ++ two date.month ++ "-" ++ two date.day ++ "T" ++
    two (second / 3600) ++ ":" ++ two (second / 60 % 60) ++ ":" ++
    two (second % 60 + m.nanos / nanosPerSec) ++ Calendar.fractionText (m.nanos % nanosPerSec) ++
    zone

def zulu (m : Moment) : String := m.text "Z"

def withOffset (m : Moment) : String := m.text "+00:00"

end Moment

/-- A reading of both clocks: the time of day, and the time since some fixed start. -/
structure Instant where
  wall : Moment
  steady : Duration
deriving DecidableEq, Repr, Inhabited

end RecordFlow
