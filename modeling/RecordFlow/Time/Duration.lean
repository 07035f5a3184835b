import RecordFlow.Number.Binary64

/-!
# Duration — a length of time in seconds and nanoseconds

A duration has sixty-four bits of seconds.  Conversion to seconds as a number rounds the seconds,
the fraction and their sum; conversion back rounds to the nearest nanosecond and fails when the
seconds do not fit.
-/

namespace RecordFlow

/-- A length of time; `nanos` stays below one second. -/
structure Duration where
  secs : Nat
  nanos : Nat
deriving DecidableEq, Repr, Inhabited

namespace Duration

def nanosPerSecond : Nat := 1000000000

/-- One more than the greatest count of seconds. -/
def secondsLimit : Nat := Nat.pow 2 64

def zero : Duration := ⟨0, 0⟩

def ofSecs (secs : Nat) : Duration := ⟨secs, 0⟩

def ofNanos (nanos : Nat) : Duration :=
  ⟨nanos / nanosPerSecond, nanos % nanosPerSecond⟩

/-- The duration of some seconds and nanoseconds, `none` when the seconds do not fit. -/
def ofParts? (secs nanos : Nat) : Option Duration :=
  let whole := secs + nanos / nanosPerSecond
  if whole < secondsLimit then some ⟨whole, nanos % nanosPerSecond⟩ else none

def ofMillis (millis : Nat) : Duration := ofNanos (millis * 1000000)

def toNanos (d : Duration) : Nat := d.secs * nanosPerSecond + d.nanos

/-- Whole milliseconds, rounded down. -/
def millis (d : Duration) : Nat := d.secs * 1000 + d.nanos / 1000000

/-- Whole milliseconds, kept to sixty-four bits. -/
def millisWord (d : Duration) : Nat := d.millis % Nat.pow 2 64

def isZero (d : Duration) : Bool := d.secs == 0 && d.nanos == 0

/-- The duration between two moments of one clock; zero when the second comes first. -/
def between (start finish : Duration) : Duration :=
  ofNanos (finish.toNanos - start.toNanos)

def seconds (d : Duration) : Binary64 :=
  .ofNat d.secs + .ofNat d.nanos / .ofNat nanosPerSecond

/-- The duration nearest to a number of seconds, `none` for NaN, a negative number, or more seconds
than a duration holds. -/
def ofSeconds? : Binary64 → Option Duration
  | .nan _ => none
  | .infinite _ => none
  | .finite negative m q =>
    if negative && m != 0 then none
    else
      let (n, d) := Binary64.ratio m q
      let total := Binary64.roundHalfEven (n * nanosPerSecond) d
      if total < secondsLimit * nanosPerSecond then some (ofNanos total) else none

/-- The duration rounded to whole seconds, through its number of seconds. -/
def roundedSecs (d : Duration) : Duration :=
  ofSecs d.seconds.toWord

/-- The duration cut to whole milliseconds. -/
def cutToMillis (d : Duration) : Duration := ofMillis d.millisWord

end Duration
end RecordFlow
