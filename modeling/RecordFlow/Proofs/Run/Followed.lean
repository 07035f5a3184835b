import RecordFlow.Proofs.Run.Calls
import RecordFlow.Run.Schedule

/-!
# Followed — the course of a schedule

The schedule of a run leaves a log and calls of the processor behind like any other order of moves.
`Course.follow` follows the schedule and keeps both, so that what holds for every trace holds for
the runs that the schedule makes.
-/

namespace RecordFlow

/-- A flow with what its moves have left behind. -/
structure Course where
  log : Log
  calls : List Call
  flow : Flow

namespace Course

variable {handler : Handler} {time : Moment} {f : Flow} {c : Course}

/-- A flow that has not made a move. -/
def start (f : Flow) : Course := ⟨.empty, [], f⟩

def move? (handler : Handler) (c : Course) (move : Flow.Move) : Option Course :=
  (c.flow.step? handler move).map fun g =>
    ⟨c.log.extend (c.flow.emission? move) (c.flow.event? move),
      c.calls ++ (c.flow.call? handler move).toList, g⟩

/-- The next move of the schedule. -/
def next? (handler : Handler) (time : Moment) (c : Course) : Option Course :=
  (c.flow.candidates time).findSome? (c.move? handler)

/-- Follows the schedule for a number of moves at most. -/
def follow (handler : Handler) (time : Moment) : Nat → Course → Course
  | 0, c => c
  | fuel + 1, c =>
    match c.next? handler time with
    | some c => follow handler time fuel c
    | none => c

/-- What is kept makes no difference to where the schedule leads. -/
theorem map_next? (c : Course) :
    (c.next? handler time).map Course.flow = c.flow.next? handler time := by
  unfold next? Flow.next?
  induction c.flow.candidates time with
  | nil => rfl
  | cons move rest ih =>
    rw [List.findSome?_cons, List.findSome?_cons, move?]
    cases c.flow.step? handler move with
    | none => exact ih
    | some g => rfl

theorem flow_follow (fuel : Nat) (c : Course) :
    (c.follow handler time fuel).flow = c.flow.follow handler time fuel := by
  induction fuel generalizing c with
  | zero => rfl
  | succ fuel ih =>
    have hnext : (c.next? handler time).map Course.flow = c.flow.next? handler time :=
      map_next? c
    rw [follow, Flow.follow, ← hnext]
    cases c.next? handler time with
    | none => rfl
    | some d => exact ih d

/-- To follow the schedule is to make moves. -/
theorem called_follow (hcalled : f.Called handler c.log c.calls c.flow) (time : Moment)
    (fuel : Nat) :
    f.Called handler (c.follow handler time fuel).log (c.follow handler time fuel).calls
      (c.follow handler time fuel).flow := by
  induction fuel generalizing c with
  | zero => exact hcalled
  | succ fuel ih =>
    rw [follow]
    cases hnext : c.next? handler time with
    | none => exact hcalled
    | some d =>
      rcases List.exists_of_findSome?_eq_some hnext with ⟨move, _, hmove⟩
      rcases Option.map_eq_some_iff.1 hmove with ⟨g, hstep, rfl⟩
      exact ih (.move move hcalled hstep)

/-- The course of a flow that is brought to rest. -/
def settled (handler : Handler) (time : Moment) (f : Flow) : Course :=
  (start f).follow handler time f.work

theorem flow_settled (handler : Handler) (time : Moment) (f : Flow) :
    (settled handler time f).flow = f.settle handler time :=
  flow_follow _ _

theorem called_settled (handler : Handler) (time : Moment) (f : Flow) :
    f.Called handler (settled handler time f).log (settled handler time f).calls
      (f.settle handler time) := by
  have hstart : f.Called handler (start f).log (start f).calls (start f).flow := .start
  have hfollowed := called_follow hstart time f.work
  rwa [flow_follow] at hfollowed

end Course

namespace Run

/-- A run that has not been made before is its flow brought to rest. -/
theorem execute_eq_conclude (handler : Handler) (options : RunOptions) (output : Output)
    (files : Files) (created start finish : Instant) :
    (ofOptions options output created).execute handler files start finish =
      (ofOptions options output created).conclude
        (((ofOptions options output created).launch files start).settle handler start.wall)
        finish :=
  rfl

theorem perform_eq_finish (handler : Handler) (options : RunOptions) (output : Output)
    (files : Files) (created start finish : Instant) :
    (ofOptions options output created).perform handler files start finish =
      (ofOptions options output created).finish
        (((ofOptions options output created).launch files start).settle handler start.wall)
        finish :=
  rfl

/-- To close the accounts of a run leaves its collector alone. -/
theorem collector_conclude (r : Run) (f : Flow) (finish : Instant) :
    (r.conclude f finish).1.ledger.collector = f.ledger.collector :=
  rfl

end Run
end RecordFlow
