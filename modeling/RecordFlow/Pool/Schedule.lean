import RecordFlow.Pool.Basic

/-!
# Schedule — one order of the steps of a pool

Any interleaving of the steps of the workers may happen.  A schedule picks one: the first worker
that can go on does, and a worker that waits gives up only when none can.  `settle` follows it until
nothing moves, and `drain` goes on as long as there are results to take; how long that lasts is
bounded by the work that is left, which every step lessens.
-/

namespace RecordFlow

/-- How many steps a phase and all that follow it can take without another record. -/
def Phase.work : Phase → Nat
  | .idle => 2
  | .selecting => 1
  | .sending _ => 4
  | .offering _ => 5
  | .releasing _ => 6
  | .processing _ => 8
  | .waiting _ => 9
  | .requesting _ => 10
  | .holding _ => 11
  | .exited => 0
  | .dead => 0

namespace Pool

/-- How many steps a record that waits for a worker can take. -/
def recordWork : Nat := 11

/-- A bound on the steps that a pool and the readers of its streams can still take. -/
def work (p : Pool) : Nat :=
  recordWork * p.input.queue.length + (p.workers.map fun w => w.phase.work).foldr (· + ·) 0 +
    p.results.queue.length + p.errors.queue.length + if p.stage = .stopped then 0 else 1

def isHeld (hold : Record → Bool) (p : Pool) (i : Nat) : Bool :=
  match p.workers[i]?.bind Worker.processing? with
  | some r => hold r
  | none => false

/-- The steps that the schedule tries, in order; workers that process a record with `hold` stay. -/
def candidates (hold : Record → Bool) (p : Pool) : List Move :=
  let all := List.range p.workers.length
  let free := all.filter fun i => !p.isHeld hold i
  free.map Move.advance ++ all.map Move.quit ++ [.retire]

def next? (handler : Handler) (hold : Record → Bool) (p : Pool) : Option Pool :=
  (p.candidates hold).findSome? (p.step? handler)

/-- Follows the schedule for a number of steps at most. -/
def follow (handler : Handler) (hold : Record → Bool) : Nat → Pool → Pool
  | 0, p => p
  | fuel + 1, p =>
    match p.next? handler hold with
    | some p => follow handler hold fuel p
    | none => p

def settle (handler : Handler) (hold : Record → Bool) (p : Pool) : Pool :=
  p.follow handler hold p.work

/-- Takes results off the stream whenever the pool has come to rest, for a number of times at most;
`seen` holds what was taken before. -/
def drainFor (handler : Handler) : Nat → List Result → Pool → List Result × Pool
  | 0, seen, p => (seen, p)
  | fuel + 1, seen, p =>
    let p := p.settle handler fun _ => false
    match p.results.queue with
    | [] => (seen, p)
    | taken => drainFor handler fuel (seen ++ taken) { p with results.queue := [] }

def drain (handler : Handler) (p : Pool) : List Result × Pool :=
  p.drainFor handler (p.work + 1) []

end Pool
end RecordFlow
