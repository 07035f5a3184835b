import RecordFlow.Error
import RecordFlow.Progress.Stats

/-!
# Tracker — counters that report on a run

A tracker counts results and, if it has a sink, writes to it: a snapshot of the progress when it is
first stopped after its one start, and a final block whenever it is asked for one.  The texts that
the sink received are kept in order.

A text shows stats, which can only be derived if the remaining time is a duration.  If it is none,
the call that was to write panics and nothing is written; what it did before stays done.  The panic
unwinds whoever made the call.
-/

namespace RecordFlow

/-- What a tracker does with its counters. -/
structure TrackerOptions where
  reports : Bool
  terminal : Bool
  verbose : Bool
  /-- The expected count of records, zero if unknown. -/
  total : Nat
deriving DecidableEq, Repr, Inhabited

def TrackerOptions.silent (total : Nat) : TrackerOptions := ⟨false, false, false, total⟩

/-- The text of a snapshot. -/
def TrackerOptions.snapshot (options : TrackerOptions) (s : Stats) : String :=
  if options.verbose then s.verbose else s.compact options.terminal

structure Tracker where
  options : TrackerOptions
  counts : Counts
  total : Nat
  /-- When the clock of the tracker was set. -/
  since : Duration
  started : Bool
  /-- Whether it has been started and not stopped, with a sink. -/
  reporting : Bool
  written : List String
deriving DecidableEq, Repr, Inhabited

namespace Tracker

def ofOptions (options : TrackerOptions) (now : Duration) : Tracker :=
  ⟨options, .zero, options.total, now, false, false, []⟩

def sample (t : Tracker) (now : Duration) : Sample :=
  ⟨t.counts, t.total, .between t.since now⟩

/-- Sets the clock and begins to report.  A tracker starts once. -/
def start (t : Tracker) (now : Duration) : Tracker × Except FlowError Unit :=
  if t.started then (t, .error .alreadyStarted)
  else ({ t with started := true, since := now, reporting := t.options.reports }, .ok ())

def record (t : Tracker) (status : Status) : Tracker := { t with counts := t.counts.add status }

def setTotal (t : Tracker) (total : Nat) : Tracker := { t with total }

/-! ## Calls that write

Each of them comes to a tracker and to nothing else, or to the text of a panic. -/

/-- Writes a text on the stats of a moment. -/
def print (t : Tracker) (now : Duration) (text : Stats → String) :
    Tracker × Except String Unit :=
  match Stats.derive? (t.sample now) with
  | some s => ({ t with written := t.written ++ [text s] }, .ok ())
  | none => (t, .error Stats.panicText)

/-- Stops the reports, and then writes the last snapshot. -/
def callStop (t : Tracker) (now : Duration) : Tracker × Except String Unit :=
  if t.reporting then { t with reporting := false }.print now t.options.snapshot else (t, .ok ())

def callPrintFinal (t : Tracker) (now : Duration) : Tracker × Except String Unit :=
  if t.options.reports then t.print now Stats.closing else (t, .ok ())

/-- Stops and asks for a final block, unless it panics over the first; the clock may have gone on
between the two. -/
def callStopAndPrintFinal (t : Tracker) (now : Duration) (later : Duration := now) :
    Tracker × Except String Unit :=
  match t.callStop now with
  | (t, .ok ()) => t.callPrintFinal later
  | (t, .error panic) => (t, .error panic)

def stop (t : Tracker) (now : Duration) : Tracker := (t.callStop now).1

def printFinal (t : Tracker) (now : Duration) : Tracker := (t.callPrintFinal now).1

def stopAndPrintFinal (t : Tracker) (now : Duration) (later : Duration := now) : Tracker :=
  (t.callStopAndPrintFinal now later).1

/-- What the sink received. -/
def text (t : Tracker) : String := String.join t.written

end Tracker
end RecordFlow
