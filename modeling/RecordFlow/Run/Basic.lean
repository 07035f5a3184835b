import RecordFlow.ExitStatus
import RecordFlow.Report
import RecordFlow.Run.Schedule

/-!
# Run — from the sources to the final report

A run is created, goes on once, and is finalized.  `Run.launch` sets up the flow of a run, and
`Run.conclude` closes the accounts over a flow that has come to its end, whichever order its moves
were made in; `Run.execute` does both around the flow that the schedule gives.

A run that comes to its end fails when its output did, or else when the errors exceeded an enforced
threshold.  Being stopped is no failure.
-/

namespace RecordFlow

/-- What a run is to do. -/
structure RunOptions where
  reading : Source.Options
  sources : List Path
  /-- How many records can wait for a worker, zero for the usual number. -/
  buffer : Nat
  pool : PoolOptions
  tolerance : Tolerance
  progress : TrackerOptions
  reports : Bool
  signals : Bool

inductive Run.Stage where
  | created
  | running
  | finalized
deriving DecidableEq, Repr, Inhabited

structure Run where
  options : RunOptions
  stage : Run.Stage
  scope : Scope
  ledger : Ledger
  workers : List Worker
  signal : Option Int
  /-- What the report of errors says. -/
  report : String

namespace Run

/-! ## Before -/

/-- A run with an output; every source has its place on the board. -/
def ofOptions (options : RunOptions) (output : Output) (now : Instant) : Run :=
  let board := (Source.names options.sources).foldl
    (fun board name => board.addSource name 0 now.steady)
    (Board.empty options.progress now.steady)
  { options
    stage := .created
    scope := .ongoing
    ledger :=
      { board
        summary := .startedAt now
        collector := .empty options.tolerance
        output
        cancelled := false }
    workers := []
    signal := none
    report := "" }

def stop (r : Run) : Run := { r with scope := r.scope.cancel.1 }

/-! ## During -/

/-- How many errors of sources can wait for the accounts: one of each source at least. -/
def rejectionCapacity (options : RunOptions) : Nat :=
  max (Source.bufferSize options.buffer) options.sources.length

def launch (r : Run) (files : Files) (now : Instant) : Flow :=
  let options := r.options
  let sources := Source.openAll options.reading files options.sources
  let records : Channel Record := .empty (Source.bufferSize options.buffer)
  let flow : Flow :=
    { reading := .ofSources options.reading sources
      rejections := .empty (rejectionCapacity options)
      pool := ((Pool.ofOptions options.pool r.scope records).start).1
      ledger :=
        { r.ledger with
          board := (r.ledger.board.start now.steady).1
          summary := r.ledger.summary.start now } }
  flow.close

/-! ## After -/

/-- The most errors that are reported one by one, the messages that are ranked otherwise, and the
most errors in a detailed report. -/
def detailedReportLimit : Nat := 5
def rankedMessages : Nat := 5
def detailedErrors : Nat := 10

/-- The report of the errors of a run, nothing if there are none. -/
def errorReport (c : Collector) : String :=
  if c.entries.isEmpty then ""
  else
    Report.summary c ++
      if detailedReportLimit < c.count then Report.top c rankedMessages
      else Report.detailed c detailedErrors

def closeLedger (l : Ledger) (now : Instant) : Ledger :=
  { l with
    output := l.output.flush
    board := l.board.stopAndPrintFinal now.steady
    summary := l.summary.finalize now }

/-- The outcome of a run with the given accounts. -/
def outcome (l : Ledger) : Except FlowError Unit :=
  match l.output.fault with
  | some fault => .error (.io fault.message)
  | none => if l.collector.breached then .error .aborted else .ok ()

def conclude (r : Run) (f : Flow) (now : Instant) : Run × Except FlowError Unit :=
  let ledger := closeLedger f.ledger now
  ({ r with
      stage := .finalized
      scope := f.pool.scope
      ledger
      workers := f.pool.workers
      signal := if r.options.signals then f.pool.signal else none
      report := if r.options.reports then errorReport ledger.collector else "" },
    outcome ledger)

/-- Makes a run, from its start to its end.  A run is made once. -/
def execute (handler : Handler) (r : Run) (files : Files) (start finish : Instant) :
    Run × Except FlowError Unit :=
  if r.stage = .created then
    r.conclude ((r.launch files start).settle handler start.wall) finish
  else (r, .error .alreadyRan)

/-! ## Endings -/

/-- What a run comes to. -/
inductive Ending where
  | returned (r : Run) (outcome : Except FlowError Unit)
  /-- The process has ended; the lines are those that its output took. -/
  | exited (status : ExitStatus) (lines : List String)
  /-- The run broke off with a text, its accounts being what they are then. -/
  | panicked (text : String) (l : Ledger)

/-- How a run ends over a flow that has come to its end: the output comes first, and the progress
follows. -/
def finish (r : Run) (f : Flow) (now : Instant) : Ending :=
  let ledger := closeLedger f.ledger now
  if ledger.output.fault = some .brokenPipe then .exited .brokenPipe ledger.output.lines
  else
    match (f.ledger.board.callStopAndPrintFinal now.steady).2 with
    | .error text => .panicked text ledger
    | .ok () => .returned (r.conclude f now).1 (r.conclude f now).2

/-- Makes a run as `execute` does, up to what it comes to. -/
def perform (handler : Handler) (r : Run) (files : Files) (start finish : Instant) : Ending :=
  if r.stage = .created then
    r.finish ((r.launch files start).settle handler start.wall) finish
  else .returned r (.error .alreadyRan)

/-! ## What a run tells -/

def progressText (r : Run) : String := r.ledger.board.overall.text

/-- The status that a signal leaves the process with. -/
def signalStatus? (r : Run) : Option ExitStatus := r.signal.map ExitStatus.ofSignal

end Run
end RecordFlow
