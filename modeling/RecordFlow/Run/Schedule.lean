import RecordFlow.Run.Flow

/-!
# Schedule — one order of the moves of a flow

The accounts come first, then the scope, then the workers in their order, then the sources in
theirs, and giving up comes last.  `Flow.settle` follows this schedule until nothing moves; the work
that is left bounds how long that takes.
-/

namespace RecordFlow

namespace Source

/-- How many moves one emission can give rise to. -/
def emissionWork : Nat := 15

/-- How many moves the task of a source can give rise to. -/
def Task.work (options : Options) : Task → Nat
  | .opening (.error _) => 19
  | .opening (.ok o) => 23 + emissionWork * (o.body options).length
  | .comparing o => 19 + emissionWork * (o.body options).length
  | .reading rest => 3 + emissionWork * rest.length
  | .offering _ rest => 16 + emissionWork * rest.length
  | .sending _ rest => 15 + emissionWork * rest.length
  | .closing (some _) => 17
  | .closing none => 1
  | .finished => 0

end Source

namespace Flow

/-- A bound on the moves that a flow can still make. -/
def work (f : Flow) : Nat :=
  (f.reading.tasks.map (Source.Task.work f.reading.options)).foldr (· + ·) 0 +
    f.rejections.queue.length + f.pool.work + if f.pool.scope.cancelled then 0 else 1

/-- The moves that the schedule tries, in order, all at one time of day. -/
def candidates (time : Moment) (f : Flow) : List Move :=
  let workers := List.range f.pool.workers.length
  let sources := List.range f.reading.tasks.length
  [.result time, .rejection time, .forwarded time, .escalate] ++
    workers.map (.worker <| .advance ·) ++ sources.map .source ++
    workers.map (.worker <| .quit ·) ++ sources.map .sourceQuit ++ [.worker .retire]

def next? (handler : Handler) (time : Moment) (f : Flow) : Option Flow :=
  (f.candidates time).findSome? (f.step? handler)

/-- Follows the schedule for a number of moves at most. -/
def follow (handler : Handler) (time : Moment) : Nat → Flow → Flow
  | 0, f => f
  | fuel + 1, f =>
    match f.next? handler time with
    | some f => follow handler time fuel f
    | none => f

def settle (handler : Handler) (time : Moment) (f : Flow) : Flow :=
  f.follow handler time f.work

end Flow
end RecordFlow
