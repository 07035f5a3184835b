import RecordFlow.Proofs.Ledger.Limit
import RecordFlow.Proofs.Run.Accounting
import RecordFlow.Proofs.Run.Breach
import RecordFlow.Proofs.Run.Followed
import RecordFlow.Proofs.Run.Streams

/-!
# Limit — when a limit of errors stops a run

The accounts keep errors up to the limit and stop the run at the first that has no place.  The error
that takes the last place stops nothing, so that a run with exactly as many errors as its limit goes
on to its end.

* `Flow.Trace.limited` is what holds along every trace of a run with a limit,
* `Flow.Limited.step` says which of the moves stop such a run on behalf of the accounts,
* `limit_stops_at_next_error` is both, and `full_collector_stops_nothing` a run that fills its
  collector and is not stopped.
-/

namespace RecordFlow

/-- The errors that the accounts have taken, whether or not there was room for them. -/
def Log.errors (log : Log) : List RecordError := log.accounted.filterMap fun e => e.2.collected?

namespace Flow

variable {handler : Handler} {f g : Flow} {move : Move} {log : Log}

/-! ## Under a limit -/

/-- What holds of a flow with a limit of errors: its collector has kept the first errors, and the
accounts have cancelled the run if there were more of them, or a line was lost. -/
structure Limited (limit : Nat) (output : Output) (log : Log) (f : Flow) : Prop where
  tolerance : f.ledger.collector.tolerance.maxErrors = limit
  kept : f.ledger.collector.causes = log.errors.take limit
  cancelled : f.ledger.cancelled = true ↔
    limit < log.errors.length ∨ output.Loses (log.accounted.filterMap fun e => e.2.line?)
  heeded : f.Heeds

/-- What holds along every trace behind a collector that is empty at first. -/
theorem Trace.limited {tolerance : Tolerance} (h : Trace handler f log g)
    (hlimit : 0 < tolerance.maxErrors) (hempty : f.ledger.collector = .empty tolerance)
    (hongoing : f.ledger.cancelled = false) :
    g.Limited tolerance.maxErrors f.ledger.output log := by
  have hlimit' : 0 < f.ledger.collector.tolerance.maxErrors := by rwa [hempty]
  have hnone : f.ledger.collector.count = 0 := by
    rw [hempty]
    rfl
  have hcount : f.ledger.collector.count ≤ f.ledger.collector.tolerance.maxErrors :=
    hnone.symm ▸ Nat.zero_le _
  have hledger := h.ledger
  refine ⟨?_, ?_, ?_, ?_⟩
  · rw [hledger, Ledger.tolerance_accountAll, hempty]
    rfl
  · have hcauses := Ledger.causes_accountAll_of_limited log.accounted hlimit' hcount
    rw [← hledger, hempty] at hcauses
    exact hcauses
  · have hcancelled := Ledger.cancelled_accountAll_iff_of_limited log.accounted hlimit' hcount
    rw [← hledger, hongoing, hnone, Nat.zero_add, hempty] at hcancelled
    simpa [Log.errors, Collector.empty] using hcancelled
  · apply h.heeds
    intro hcancelled
    rw [hongoing] at hcancelled
    cases hcancelled

section Step

variable {limit : Nat} {output : Output}

theorem Limited.count_eq (h : f.Limited limit output log) :
    f.ledger.collector.count = min limit log.errors.length := by
  rw [← Collector.length_entries, ← List.length_map Entry.cause, ← Collector.causes, h.kept,
    List.length_take]

/-- An event stops a run that goes on if it comes with an error and the limit has been reached
before, or if its line is lost.  What gives the accounts no event leaves them as they are. -/
theorem Limited.step (h : f.Limited limit output log) (hlimit : 0 < limit)
    (hstep : f.step? handler move = some g) (hongoing : f.pool.scope.cancelled = false) :
    (f.event? move = none → g.ledger = f.ledger) ∧
      ∀ time e, f.event? move = some (time, e) →
        (g.pool.scope.cancelled = true ↔
          (e.collected?.isSome = true ∧ f.ledger.collector.count = limit) ∨
            f.ledger.Spills (time, e)) := by
  have hturn := turns_of_step? hstep
  constructor
  · intro hevent
    rw [hturn.ledger, hevent]
    rfl
  · intro time e hevent
    rw [hevent] at hturn
    have hledger : f.ledger.cancelled = false := by
      cases hcancelled : f.ledger.cancelled with
      | false => rfl
      | true => exact (h.heeded hcancelled).symm.trans hongoing
    have hfull : f.ledger.collector.isFull = true ↔ f.ledger.collector.count = limit := by
      rw [Collector.isFull_iff_of_limited (h.tolerance ▸ hlimit), h.tolerance, h.count_eq]
      omega
    have hcancels := f.ledger.cancelled_account_iff (time, e)
    rw [hturn.scope_of_event, Scope.cancelled_cancelIf, hongoing, Bool.false_or, hcancels, hledger,
      Ledger.Overflows, hfull]
    simp

end Step
end Flow

namespace Run

/-- Whatever its processor does and in whichever order its parts move, a run with a limit of errors

* keeps the first errors that come to its accounts, and never more of them than its limit,
* is cancelled by its accounts exactly when there have been more errors than that, or a line of
  its output was lost, and its scope is cancelled with it,
* is stopped by an error exactly when the limit had been reached before that error came. -/
theorem limit_stops_at_next_error {options : RunOptions} (hlimit : 0 < options.tolerance.maxErrors)
    (handler : Handler) (sink : Option Sink) (files : Files) (created start : Instant)
    (log : Log) (f : Flow)
    (htrace : Flow.Trace handler
      ((ofOptions options ⟨sink, [], none⟩ created).launch files start) log f) :
    f.ledger.collector.causes = log.errors.take options.tolerance.maxErrors ∧
      f.ledger.collector.count ≤ options.tolerance.maxErrors ∧
      (f.ledger.cancelled = true ↔
        options.tolerance.maxErrors < log.errors.length ∨
          Output.Loses ⟨sink, [], none⟩ (log.accounted.filterMap fun e => e.2.line?)) ∧
      (f.ledger.cancelled = true → f.pool.scope.cancelled = true) ∧
      ∀ move g, f.step? handler move = some g → f.pool.scope.cancelled = false →
        (f.event? move = none → g.ledger = f.ledger) ∧
        ∀ time e, f.event? move = some (time, e) →
          (g.pool.scope.cancelled = true ↔
            (e.collected?.isSome = true ∧
              f.ledger.collector.count = options.tolerance.maxErrors) ∨
            f.ledger.Spills (time, e)) := by
  have hlimited : f.Limited options.tolerance.maxErrors ⟨sink, [], none⟩ log := by
    have hempty := collector_launch options ⟨sink, [], none⟩ files created start
    have houtput := output_launch options ⟨sink, [], none⟩ files created start
    have hongoing : ((ofOptions options ⟨sink, [], none⟩ created).launch files
        start).ledger.cancelled = false := by
      rw [launch, Flow.ledger_close]
      rfl
    exact houtput ▸ htrace.limited hlimit hempty hongoing
  refine ⟨hlimited.kept, ?_, hlimited.cancelled, hlimited.heeded, ?_⟩
  · rw [hlimited.count_eq]
    exact Nat.min_le_left _ _
  · intro move g hstep hongoing
    exact hlimited.step hlimit hstep hongoing

/-- The sample run, which has two errors, with a limit of errors. -/
def limitedOptions (limit : Nat) : RunOptions :=
  { sampleOptions with tolerance := ⟨limit, .zero, false⟩ }

def limitedFlow (limit : Nat) : Flow :=
  (ofOptions (limitedOptions limit) (.ofSink .reliable) default).launch sampleFiles default

theorem trace_limitedFlow (limit : Nat) :
    Flow.Trace validator (limitedFlow limit)
      (Course.settled validator default (limitedFlow limit)).log
      ((limitedFlow limit).settle validator default) :=
  (Course.called_settled validator default (limitedFlow limit)).trace

/-- With room for one error the second one stops the sample run. -/
theorem limit_stops_sampleRun :
    ((limitedFlow 1).settle validator default).ledger.collector.count ≤ 1 ∧
      ((limitedFlow 1).settle validator default).pool.scope.cancelled = true := by
  have hlimit : 0 < (limitedOptions 1).tolerance.maxErrors := by decide
  rcases limit_stops_at_next_error hlimit validator (some .reliable) sampleFiles default default _ _
    (trace_limitedFlow 1) with ⟨_, hcount, hcancelled, hheeded, _⟩
  refine ⟨hcount, hheeded (hcancelled.2 (.inl ?_))⟩
  decide +kernel

/-- A run can end with as many errors as its limit allows and not be stopped. -/
theorem full_collector_stops_nothing :
    ¬ ∀ (handler : Handler) (options : RunOptions) (output : Output) (files : Files)
        (created start : Instant) (log : Log) (f : Flow),
      0 < options.tolerance.maxErrors →
      Flow.Trace handler ((ofOptions options output created).launch files start) log f →
      f.isEnded = true → f.ledger.collector.count = options.tolerance.maxErrors →
      f.pool.scope.cancelled = true := by
  intro hstops
  have hcancelled := hstops validator (limitedOptions 2) (.ofSink .reliable) sampleFiles default
    default _ _ (by decide) (trace_limitedFlow 2) (by decide +kernel) (by decide +kernel)
  have hongoing : ((limitedFlow 2).settle validator default).pool.scope.cancelled = false := by
    decide +kernel
  rw [hongoing] at hcancelled
  cases hcancelled

end Run
end RecordFlow
