import RecordFlow.Progress.Tracker

/-!
# Board — a tracker for every source, and one for all

The trackers of the sources are silent and stand in the order in which the sources were named; a
name that is given twice keeps its first tracker.  A result counts for its source, if that is on the
board, and for all.
-/

namespace RecordFlow

structure Board where
  sources : List (String × Tracker)
  overall : Tracker
deriving DecidableEq, Repr

namespace Board

def empty (options : TrackerOptions) (now : Duration) : Board := ⟨[], .ofOptions options now⟩

def source? (b : Board) (name : String) : Option Tracker :=
  (b.sources.find? fun s => s.1 == name).map (·.2)

def addSource (b : Board) (name : String) (expected : Nat) (now : Duration) : Board :=
  if (b.source? name).isSome then b
  else { b with sources := b.sources ++ [(name, .ofOptions (.silent expected) now)] }

def record (b : Board) (source : String) (status : Status) : Board :=
  { sources := b.sources.map fun (name, t) =>
      (name, if name = source then t.record status else t)
    overall := b.overall.record status }

/-- Starts trackers from the left up to the first that has been started. -/
def startSources (now : Duration) :
    List (String × Tracker) → List (String × Tracker) × Except FlowError Unit
  | [] => ([], .ok ())
  | (name, t) :: rest =>
    match t.start now with
    | (t, .error e) => ((name, t) :: rest, .error e)
    | (t, .ok ()) =>
      let (rest, outcome) := startSources now rest
      ((name, t) :: rest, outcome)

/-- Starts the trackers of the sources, then the one for all. -/
def start (b : Board) (now : Duration) : Board × Except FlowError Unit :=
  match startSources now b.sources with
  | (sources, .error e) => ({ b with sources }, .error e)
  | (sources, .ok ()) =>
    let (overall, outcome) := b.overall.start now
    (⟨sources, overall⟩, outcome)

def stop (b : Board) (now : Duration) : Board := { b with overall := b.overall.stop now }

/-- Asks for the last texts, and tells of a panic. -/
def callStopAndPrintFinal (b : Board) (now : Duration) : Board × Except String Unit :=
  let (overall, outcome) := b.overall.callStopAndPrintFinal now
  ({ b with overall }, outcome)

def stopAndPrintFinal (b : Board) (now : Duration) : Board :=
  (b.callStopAndPrintFinal now).1

end Board
end RecordFlow
