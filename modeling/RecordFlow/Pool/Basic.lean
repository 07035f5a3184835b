import RecordFlow.Channel
import RecordFlow.Outcome
import RecordFlow.Semaphore

/-!
# Pool — workers that share the records of one stream

A pool has a number of workers, a stream of records to take from, and two streams to give to: the
results, and the errors of the processor as far as there is room for them.  A worker goes through
phases; between two of them it does one thing that others can notice.  The same record is taken by
one worker only, and a worker that is told to stop ends before its next step that matters.

With a cap on the records processed at one time the workers share a semaphore and hold a permit of
it while they process.
-/

namespace RecordFlow

/-! ## Sizes -/

/-- How a pool is laid out; a size of zero stands for the usual size, or for no cap. -/
structure PoolOptions where
  workers : Nat
  resultBuffer : Nat
  errorBuffer : Nat
  maxActive : Nat
deriving DecidableEq, Repr, Inhabited

namespace PoolOptions

/-- The usual number of errors held back for the reader of the error stream. -/
def usualErrorBuffer : Nat := 10

/-- A pool has one worker at least. -/
def workerCount (o : PoolOptions) : Nat := max o.workers 1

theorem workerCount_pos (o : PoolOptions) : 0 < o.workerCount :=
  Nat.le_max_right _ _

/-- Two results can wait for each worker, unless a size is given. -/
def resultCapacity (o : PoolOptions) : Nat :=
  if o.resultBuffer = 0 then o.workerCount * 2 else o.resultBuffer

def errorCapacity (o : PoolOptions) : Nat :=
  if o.errorBuffer = 0 then usualErrorBuffer else o.errorBuffer

/-- The cap on active records, if it is below the number of workers. -/
def activeLimit? (o : PoolOptions) : Option Nat :=
  if o.maxActive = 0 ∨ o.workerCount ≤ o.maxActive then none else some o.maxActive

end PoolOptions

/-! ## Workers -/

/-- An error on a stream, with the record it belongs to. -/
structure RecordError where
  error : FlowError
  record : Option Record
deriving DecidableEq, Repr, Inhabited

inductive Phase where
  /-- About to look whether the scope is cancelled. -/
  | idle
  /-- Waits for a record or for the cancellation. -/
  | selecting
  /-- Has a record, and looks once more. -/
  | holding (r : Record)
  /-- Is about to ask for a permit. -/
  | requesting (r : Record)
  /-- Waits for a permit or for the cancellation. -/
  | waiting (r : Record)
  | processing (r : Record)
  /-- Is about to give its permit back. -/
  | releasing (result : Result)
  /-- Has a result, and looks whether the scope is cancelled. -/
  | offering (result : Result)
  /-- Waits for room on the result stream or for the cancellation. -/
  | sending (result : Result)
  | exited
  /-- Has been taken along by its processor. -/
  | dead
deriving Inhabited

structure Worker where
  phase : Phase
  processed : Nat
  failed : Nat
deriving Inhabited

namespace Worker

def initial : Worker := ⟨.idle, 0, 0⟩

def isGone (w : Worker) : Bool :=
  match w.phase with
  | .exited | .dead => true
  | _ => false

/-- The record that a worker has in the processor. -/
def processing? (w : Worker) : Option Record :=
  match w.phase with
  | .processing r => some r
  | _ => none

end Worker

/-! ## Pools -/

inductive Pool.Stage where
  | notStarted
  | running
  | draining
  | stopped
deriving DecidableEq, Repr, Inhabited

structure Pool where
  options : PoolOptions
  scope : Scope
  input : Channel Record
  workers : List Worker
  semaphore : Option Semaphore
  results : Channel Result
  errors : Channel RecordError
  stage : Pool.Stage
  /-- How often the processor has been called. -/
  calls : Nat
  /-- The first signal that came in. -/
  signal : Option Int
deriving Inhabited

namespace Pool

/-- A pool under a scope, for the records of `input`. -/
def ofOptions (options : PoolOptions) (scope : Scope) (input : Channel Record) : Pool :=
  { options, scope, input
    workers := List.replicate options.workerCount .initial
    semaphore := options.activeLimit?.map .ofLimit
    results := .empty options.resultCapacity
    errors := .empty options.errorCapacity
    stage := .notStarted
    calls := 0
    signal := none }

/-- Whether the workers have started and all ended. -/
def isGone (p : Pool) : Bool := p.stage ≠ .notStarted && p.workers.all Worker.isGone

/-- Starts the workers.  A pool starts once. -/
def start (p : Pool) : Pool × Except FlowError Unit :=
  if p.stage = .notStarted then ({ p with stage := .running }, .ok ())
  else (p, .error .alreadyStarted)

def cancel (p : Pool) : Pool := { p with scope := p.scope.cancel.1 }

def stop (p : Pool) : Pool :=
  { p.cancel with stage := if p.stage = .running then .draining else p.stage }

def processed (p : Pool) : Nat := (p.workers.map Worker.processed).foldr (· + ·) 0

def failed (p : Pool) : Nat := (p.workers.map Worker.failed).foldr (· + ·) 0

/-! ## Steps of a worker -/

/-- Puts a worker into a phase.  When no worker is left the records have no receiver any more. -/
def setPhase (p : Pool) (i : Nat) (phase : Phase) : Pool :=
  let workers := p.workers.modify i fun w => { w with phase }
  { p with
    workers
    input := { p.input with abandoned := p.input.abandoned || workers.all Worker.isGone } }

/-- Leaves if the scope is cancelled, and goes on to a phase otherwise. -/
def proceed (p : Pool) (i : Nat) (next : Phase) : Pool :=
  p.setPhase i (if p.scope.cancelled then .exited else next)

/-- The result of a record that the processor failed on; its error goes out if there is room. -/
def forward (p : Pool) (r : Record) (error : FlowError) : Pool × Result :=
  let error : FlowError := .context "process" r.source r.line error
  match p.errors.offer with
  | .accepted => ({ p with errors := p.errors.push ⟨error, some r⟩ }, ⟨r, .failed error true⟩)
  | _ => (p, ⟨r, .failed error false⟩)

/-- Counts a processed record for a worker. -/
def tally (p : Pool) (i : Nat) (failed : Bool) : Pool :=
  { p with
    workers := p.workers.modify i fun w =>
      { w with
        processed := w.processed + 1
        failed := if failed then w.failed + 1 else w.failed } }

/-- What the processor answers when it is called next. -/
def answer (handler : Handler) (p : Pool) (r : Record) : Response :=
  handler.answer p.calls p.scope.cancelled r

/-- What a call of the processor does to the run besides its verdict. -/
def disturb (p : Pool) (response : Response) : Pool :=
  { p with
    calls := p.calls + 1
    scope := p.scope.cancelIf (response.cancels || response.signal.isSome)
    signal := p.signal <|> response.signal }

/-- Goes on with a result: the permit goes back first, if there is one. -/
def emit (p : Pool) (i : Nat) (result : Result) : Pool :=
  p.setPhase i (if p.semaphore.isSome then .releasing result else .offering result)

def process (handler : Handler) (p : Pool) (i : Nat) (r : Record) : Pool :=
  let response := p.answer handler r
  let p := p.disturb response
  match response.verdict with
  | .crashed => p.setPhase i .dead
  | .success payload => (p.tally i false).emit i ⟨r, .success payload⟩
  | .skipped => (p.tally i false).emit i ⟨r, .skipped⟩
  | .failed error => (p.tally i true).emit i ⟨r, .failed error false⟩
  | .errored error =>
    let (p, result) := (p.tally i true).forward r error
    p.emit i result

/-- The next step of a worker, `none` if it has to wait or has ended. -/
def advance? (handler : Handler) (p : Pool) (i : Nat) : Option Pool := do
  let w ← p.workers[i]?
  match w.phase with
  | .idle => pure (p.proceed i .selecting)
  | .selecting =>
    match p.input.receive? with
    | some (r, input) => pure ({ p with input }.setPhase i (.holding r))
    | none => if p.input.closed then pure (p.setPhase i .exited) else none
  | .holding r =>
    pure (p.proceed i (if p.semaphore.isSome then .requesting r else .processing r))
  | .requesting r => pure (p.proceed i (.waiting r))
  -- a phase that waits has no step until what it waits for is there
  | .waiting r =>
    let semaphore ← p.semaphore
    let semaphore ← semaphore.tryAcquire?
    pure ({ p with semaphore := some semaphore }.setPhase i (.processing r))
  | .processing r => pure (p.process handler i r)
  | .releasing result =>
    let semaphore ← p.semaphore
    let semaphore ← semaphore.release?
    pure ({ p with semaphore := some semaphore }.setPhase i (.offering result))
  | .offering result => pure (p.proceed i (.sending result))
  | .sending result =>
    match p.results.offer with
    | .accepted => pure ({ p with results := p.results.push result }.setPhase i .idle)
    | _ => none
  | .exited => none
  | .dead => none

/-- Whether a worker waits for something or for the cancellation, whichever comes first. -/
def isWaiting (w : Worker) : Bool :=
  match w.phase with
  | .selecting | .waiting _ | .sending _ => true
  | _ => false

/-- A waiting worker ends because the scope is cancelled. -/
def quit? (p : Pool) (i : Nat) : Option Pool := do
  let w ← p.workers[i]?
  if p.scope.cancelled && isWaiting w then pure (p.setPhase i .exited) else none

/-! ## Steps of a pool -/

inductive Move where
  | advance (i : Nat)
  | quit (i : Nat)
  /-- Notes that all workers have ended. -/
  | retire
deriving DecidableEq, Repr

/-- One step of a pool that has been started. -/
def step? (handler : Handler) (p : Pool) : Move → Option Pool
  | .advance i => if p.stage = .notStarted then none else p.advance? handler i
  | .quit i => if p.stage = .notStarted then none else p.quit? i
  | .retire =>
    if p.isGone && p.stage ≠ .stopped then some { p with stage := .stopped } else none

end Pool
end RecordFlow
