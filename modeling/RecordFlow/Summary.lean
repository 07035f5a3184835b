import RecordFlow.Counts
import RecordFlow.Json.Value
import RecordFlow.Time.Calendar
import RecordFlow.Time.Units

/-!
# Summary — the counts and the time of a whole run

The clock of a summary starts with the run and stops once; a new start makes it go again.  A
snapshot is what the summary holds at one time, and can be written as JSON, as one line, or as a
block of lines.
-/

namespace RecordFlow

structure Summary where
  counts : Counts
  started : Duration
  startTime : Moment
  endTime : Option Moment
  duration : Duration
deriving DecidableEq, Repr

/-- What a summary holds at one time. -/
structure Snapshot where
  total : Nat
  success : Nat
  failed : Nat
  skipped : Nat
  startTime : Moment
  endTime : Option Moment
  duration : Duration
  throughput : Binary64
deriving DecidableEq, Repr

namespace Summary

/-- A summary of nothing, the clock of which starts now. -/
def startedAt (now : Instant) : Summary := ⟨.zero, now.steady, now.wall, none, .zero⟩

def start (s : Summary) (now : Instant) : Summary :=
  { s with started := now.steady, startTime := now.wall, endTime := none, duration := .zero }

def add (s : Summary) (status : Status) : Summary := { s with counts := s.counts.add status }

/-- Stops the clock, unless it has been stopped. -/
def finalize (s : Summary) (now : Instant) : Summary :=
  match s.endTime with
  | some _ => s
  | none => { s with endTime := some now.wall, duration := .between s.started now.steady }

def isEnded (s : Summary) : Bool := s.endTime.isSome

def successRate (s : Summary) : Binary64 := percentage s.counts.success s.counts.processed

def failureRate (s : Summary) : Binary64 := percentage s.counts.failed s.counts.processed

def snapshot (s : Summary) : Snapshot :=
  ⟨s.counts.processed, s.counts.success, s.counts.failed, s.counts.skipped, s.startTime,
    s.endTime, s.duration, RecordFlow.throughput s.counts.processed s.duration⟩

end Summary

namespace Snapshot

def countsLine (s : Snapshot) : String :=
  let total := s.total
  let success := s.success
  let failed := s.failed
  let skipped := s.skipped
  s!"Records processed: {total} total, {success} succeeded, {failed} failed" ++
    if 0 < skipped then s!", {skipped} skipped" else ""

/-- The counts and the time in one line. -/
def line (s : Snapshot) : String :=
  let millis := s.duration.millis
  s.countsLine ++ s!" in {millis}ms" ++
    if 0 < millis ∧ 0 < s.total then " (" ++ Fixed.text 0 s.throughput ++ " records/s)" else ""

/-- The snapshot as JSON; the time is given in milliseconds. -/
def toJson (s : Snapshot) : Json :=
  .object
    [("total", .natural s.total), ("success", .natural s.success),
     ("failed", .natural s.failed), ("skipped", .natural s.skipped),
     ("start_time", .string s.startTime.zulu),
     ("end_time", match s.endTime with
       | some time => .string time.zulu
       | none => .null),
     ("duration", .natural s.duration.millisWord), ("throughput", .number s.throughput)]

end Snapshot

/-- A line that sets blocks of a report apart, without its end. -/
def rule : String := "========================================"

def Snapshot.block (s : Snapshot) : String :=
  let share (part : Nat) : String :=
    toString part ++ " (" ++ Fixed.text 1 (percentage part s.total) ++ "%)"
  let lines :=
    ["", rule, "Processing Summary", rule,
     "Total Records:    " ++ toString s.total,
     "Successful:       " ++ share s.success,
     "Failed:           " ++ share s.failed,
     "Duration:         " ++ s.duration.cutToMillis.render,
     "Throughput:       " ++ Fixed.text 0 s.throughput ++ " records/sec", rule]
  String.intercalate "\n" lines ++ "\n"

end RecordFlow
