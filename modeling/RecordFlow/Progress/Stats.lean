import RecordFlow.Counts
import RecordFlow.Summary

/-!
# Progress stats — what the counters of a tracker say at one time

A sample holds the counters, the expected total and the elapsed time.  The stats derived from it add
rates, speed, and the time still to go at the pace so far, which has to fit a duration.  Stats are
shown as one sentence, as a line or a block of progress, and as the block that ends a run.
-/

namespace RecordFlow

/-- The counters of a tracker at one time; a total of zero is unknown. -/
structure Sample where
  counts : Counts
  total : Nat
  elapsed : Duration
deriving DecidableEq, Repr, Inhabited

/-- A sample with what follows from it; rates are percentages. -/
structure Stats extends Sample where
  throughput : Binary64
  successRate : Binary64
  failureRate : Binary64
  percentComplete : Binary64
  eta : Duration
deriving DecidableEq, Repr, Inhabited

namespace Stats

/-- The time that the records still expected take at the pace so far, `none` if it is no
duration. -/
def remaining? (s : Sample) : Option Duration :=
  let done := s.counts.processed
  if s.total = 0 ∨ done = 0 ∨ s.total ≤ done then some .zero
  else
    let pace := s.elapsed.seconds / Binary64.ofNat done
    Duration.ofSeconds? (pace * .ofNat (s.total - done))

/-- What a panic says when the remaining time is no duration. -/
def panicText : String :=
  "cannot convert float seconds to Duration: value is either too big or NaN"

/-- The stats of a sample, `none` if the remaining time is no duration. -/
def derive? (s : Sample) : Option Stats :=
  let counts := s.counts
  (remaining? s).map fun eta =>
    { toSample := s
      throughput := RecordFlow.throughput counts.processed s.elapsed
      successRate := percentage counts.success counts.processed
      failureRate := percentage counts.failed counts.processed
      percentComplete := percentage counts.processed s.total
      eta := eta }

/-! ## Text -/

/-- A count with its percentage. -/
def share (n : Nat) (rate : Binary64) : String := toString n ++ " (" ++ Fixed.text 1 rate ++ "%)"

def successText (s : Stats) : String := share s.counts.success s.successRate

def failedText (s : Stats) : String := share s.counts.failed s.failureRate

def speed (s : Stats) : String := Fixed.text 0 s.throughput

def elapsedText (s : Stats) : String := s.elapsed.roundedSecs.render

def etaText (s : Stats) : String := s.eta.roundedSecs.render

def sentence (s : Stats) : String :=
  "Processed: " ++ toString s.counts.processed ++ ", Success: " ++ s.successText ++
    ", Failed: " ++ s.failedText ++ ", Throughput: " ++ s.speed ++ " rec/s, Elapsed: " ++
    s.elapsedText

/-- A line of progress; on a terminal it takes the place of the line before. -/
def compact (s : Stats) (redraw : Bool) : String :=
  let lead := if redraw then "\r" else ""
  let tail := if redraw then "" else "\n"
  let counts := " | Success: " ++ toString s.counts.success ++ " | Failed: " ++
    toString s.counts.failed ++ " | " ++ s.speed ++ " rec/s"
  let done := toString s.counts.processed
  let body :=
    if 0 < s.total then
      "Progress: " ++ done ++ "/" ++ toString s.total ++ " (" ++ Fixed.text 1 s.percentComplete ++
        "%)" ++ counts ++ " | ETA: " ++ s.etaText
    else "Processed: " ++ done ++ counts
  lead ++ "[" ++ s.elapsedText ++ "] " ++ body ++ tail

/-- Lines between rules under a title. -/
def titled (title : String) (lines : List String) : String :=
  let all := ["", rule, title, rule] ++ lines ++ [rule]
  String.intercalate "\n" all ++ "\n"

/-- A line that is there only for a count above zero. -/
def ifAny (n : Nat) (lines : List String) : List String := if 0 < n then lines else []

def verbose (s : Stats) : String :=
  titled "Progress Update"
    (["Elapsed:     " ++ s.elapsedText, "Processed:   " ++ toString s.counts.processed] ++
      ifAny s.total
        ["Total:       " ++ toString s.total,
         "Complete:    " ++ Fixed.text 1 s.percentComplete ++ "%",
         "ETA:         " ++ s.etaText] ++
      ["Success:     " ++ s.successText, "Failed:      " ++ s.failedText] ++
      ifAny s.counts.skipped ["Skipped:     " ++ toString s.counts.skipped] ++
      ["Throughput:  " ++ s.speed ++ " records/sec"])

def closing (s : Stats) : String :=
  titled "Processing Complete"
    (["Total Time:       " ++ s.elapsed.cutToMillis.render,
      "Total Processed:  " ++ toString s.counts.processed,
      "Successful:       " ++ s.successText,
      "Failed:           " ++ s.failedText] ++
      ifAny s.counts.skipped ["Skipped:          " ++ toString s.counts.skipped] ++
      ["Avg Throughput:   " ++ s.speed ++ " records/sec"])

end Stats
end RecordFlow
