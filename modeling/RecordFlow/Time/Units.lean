import RecordFlow.Number.Decimal
import RecordFlow.Text.Blank
import RecordFlow.Time.Duration

/-!
# Units — durations as counts of named units

A duration is written as counts of years, months, days, hours, minutes, seconds and parts of a
second, the greatest first and zero counts left out (`render`).  It is read as any sequence of
numbers with a unit each, in any order, which add up (`read`); a number may have a fraction as long
as it is a whole count of nanoseconds.

The names of the units, the refusals and the text are those of the library humantime, and assumed.
-/

namespace RecordFlow
namespace Duration

/-! ## Writing -/

/-- A year has 365.25 days. -/
def secsPerYear : Nat := 31557600

/-- A month has 30.44 days. -/
def secsPerMonth : Nat := 2630016

def secsPerDay : Nat := 86400

/-- A count with a unit written in full, `none` for zero. -/
def named (unit : String) (n : Nat) : Option String :=
  if n = 0 then none else some (toString n ++ unit ++ (if n = 1 then "" else "s"))

def abbreviated (unit : String) (n : Nat) : Option String :=
  if n = 0 then none else some (toString n ++ unit)

def render (d : Duration) : String :=
  if d.isZero then "0s"
  else
    let inYear := d.secs % secsPerYear
    let inMonth := inYear % secsPerMonth
    let inDay := inMonth % secsPerDay
    String.intercalate " " <| List.filterMap id
      [named "year" (d.secs / secsPerYear),
       named "month" (inYear / secsPerMonth),
       named "day" (inMonth / secsPerDay),
       abbreviated "h" (inDay / 3600),
       abbreviated "m" (inDay % 3600 / 60),
       abbreviated "s" (inDay % 60),
       abbreviated "ms" (d.nanos / 1000000),
       abbreviated "us" (d.nanos / 1000 % 1000),
       abbreviated "ns" (d.nanos % 1000)]

/-! ## Reading -/

/-- Why a text is not a duration.  Offsets count bytes. -/
inductive ReadError where
  | empty
  | invalidCharacter (offset : Nat)
  | numberExpected (offset : Nat)
  | unitMissing (number : Nat)
  | unitUnknown (unit : String)
  | overflow
  /-- The carry of the last nanosecond leaves no room for the seconds. -/
  | carryOverflow
deriving DecidableEq, Repr

def ReadError.message : ReadError → String
  | .empty => "value was empty"
  | .invalidCharacter offset => s!"invalid character at {offset}"
  | .numberExpected offset => s!"expected number at {offset}"
  | .unitMissing number => s!"time unit needed, for example {number}sec or {number}ms"
  | .unitUnknown unit =>
    s!"unknown time unit \"{unit}\", supported units: ns, us/µs, ms, sec, min, hours, days, " ++
      "weeks, months, years (and few variations)"
  | .overflow =>
    "number is too large or cannot be represented without a lack of precision " ++
      "(values below 1ns are not supported)"
  | .carryOverflow => "number of seconds is too large"

/-- A unit of time: so many nanoseconds, or so many seconds. -/
inductive TimeUnit where
  | nanos (each : Nat)
  | secs (each : Nat)

def TimeUnit.ofName? : String → Option TimeUnit
  | "nanos" | "nsec" | "ns" => some (.nanos 1)
  | "usec" | "us" | "µs" => some (.nanos 1000)
  | "millis" | "msec" | "ms" => some (.nanos 1000000)
  | "seconds" | "second" | "secs" | "sec" | "s" => some (.secs 1)
  | "minutes" | "minute" | "min" | "mins" | "m" => some (.secs 60)
  | "hours" | "hour" | "hrs" | "hr" | "h" => some (.secs 3600)
  | "days" | "day" | "d" => some (.secs secsPerDay)
  | "weeks" | "week" | "wks" | "wk" | "w" => some (.secs (7 * secsPerDay))
  | "months" | "month" | "M" => some (.secs secsPerMonth)
  | "years" | "year" | "yrs" | "yr" | "y" => some (.secs secsPerYear)
  | _ => none

structure Fraction where
  numerator : Nat
  denominator : Nat

/-- A count of sixty-four bits, or the overflow. -/
def word (n : Nat) : Except ReadError Nat :=
  if n < Nat.pow 2 64 then .ok n else .error .overflow

def plus (d : Duration) (secs nanos : Nat) : Except ReadError Duration := do
  let nanos ← word (d.nanos + nanos)
  let (secs, nanos) ←
    if nanosPerSecond < nanos then do
      let secs ← word (secs + nanos / nanosPerSecond)
      pure (secs, nanos % nanosPerSecond)
    else pure (secs, nanos)
  let secs ← word (d.secs + secs)
  if nanos = nanosPerSecond then
    if secs + 1 < Nat.pow 2 64 then pure ⟨secs + 1, 0⟩ else throw .carryOverflow
  else pure ⟨secs, nanos⟩

/-- A fraction of so many of the smaller units, which has to come out whole. -/
def portion (f : Fraction) (each : Nat) : Except ReadError Nat := do
  let n ← word (f.numerator * each)
  if n % f.denominator = 0 then pure (n / f.denominator) else throw .overflow

/-- Adds a number of units to a duration.  The fraction of a unit up to the minute is counted in
nanoseconds, of a greater unit in seconds. -/
def plusUnits (d : Duration) (n : Nat) (f : Option Fraction) (unit : String) :
    Except ReadError Duration := do
  match TimeUnit.ofName? unit with
  | none => throw (if unit.isEmpty then .unitMissing n else .unitUnknown unit)
  | some (.nanos each) =>
    let d ← plus d 0 (← word (n * each))
    match f with
    | none => pure d
    | some f => if each = 1 then throw .overflow else plus d 0 (← portion f each)
  | some (.secs each) =>
    let d ← plus d (← word (n * each)) 0
    match f with
    | none => pure d
    | some f =>
      if each ≤ 60 then plus d 0 (← portion f (each * nanosPerSecond))
      else plus d (← portion f each) 0

def isUnitChar (c : Char) : Bool :=
  ('a' ≤ c && c ≤ 'z') || ('A' ≤ c && c ≤ 'Z') || c == 'µ'

inductive Place where
  /-- Before a number, from the byte `start` on. -/
  | gap (start : Nat)
  /-- In the whole part of the number `n`. -/
  | whole (n : Nat)
  /-- In the fraction of the number `n`, the last known good byte being `good`. -/
  | fraction (n : Nat) (f : Fraction) (good : Nat)
  /-- In the name of the unit of `n`. -/
  | unit (n : Nat) (f : Option Fraction) (name : List Char)

def shifted (n digit : Nat) : Except ReadError Nat := do
  word ((← word (n * 10)) + digit)

def finished (f : Fraction) (good : Nat) : Except ReadError Fraction :=
  if f.denominator = 1 then throw (.invalidCharacter good) else pure f

/-- Reads the character at byte `off`; `started` tells whether a number has been read. -/
def readChar (off : Nat) (c : Char) (d : Duration) :
    Place → Except ReadError (Duration × Place)
  | .gap start =>
    match Decimal.digit? c with
    | some n => pure (d, .whole n)
    | none => if Blank.isBlank c then pure (d, .gap start) else throw (.numberExpected start)
  | .whole n =>
    match Decimal.digit? c with
    | some k => do pure (d, .whole (← shifted n k))
    | none =>
      if Blank.isBlank c then pure (d, .whole n)
      else if isUnitChar c then pure (d, .unit n none [c])
      else if c == '.' then pure (d, .fraction n ⟨0, 1⟩ off)
      else throw (.invalidCharacter off)
  | .fraction n f good =>
    match Decimal.digit? c with
    | some k => do
      let denominator ← word (f.denominator * 10)
      let numerator ← shifted f.numerator k
      pure (d, .fraction n ⟨numerator, denominator⟩ (off + c.utf8Size))
    | none =>
      if Blank.isBlank c then pure (d, .fraction n f (off + c.utf8Size))
      else if isUnitChar c then do pure (d, .unit n (some (← finished f good)) [c])
      else throw (.invalidCharacter good)
  | .unit n f name =>
    match Decimal.digit? c with
    -- a digit behind the unit begins the next number
    | some k => do pure (← plusUnits d n f (String.ofList name.reverse), .whole k)
    | none =>
      if Blank.isBlank c then do
        pure (← plusUnits d n f (String.ofList name.reverse), .gap (off + c.utf8Size))
      else if isUnitChar c then pure (d, .unit n f (c :: name))
      else throw (.invalidCharacter off)

def readChars : Nat → Duration → Place → List Char → Except ReadError (Duration × Place)
  | _, d, place, [] => .ok (d, place)
  | off, d, place, c :: cs => do
    let (d, place) ← readChar off c d place
    readChars (off + c.utf8Size) d place cs

/-- Reads a duration; nothing but a zero needs no unit. -/
def read (text : String) : Except ReadError Duration := do
  if text = "0" then return .zero
  match ← readChars 0 .zero (.gap 0) text.toList with
  | (d, .gap _) =>
    if text.toList.all Blank.isBlank then throw .empty else pure d
  | (d, .whole n) => plusUnits d n none ""
  | (d, .fraction n f good) => plusUnits d n (some (← finished f good)) ""
  | (d, .unit n f name) => plusUnits d n f (String.ofList name.reverse)

end Duration
end RecordFlow
