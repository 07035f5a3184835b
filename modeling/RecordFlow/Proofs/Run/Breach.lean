import RecordFlow.Proofs.Collector.Threshold
import RecordFlow.Proofs.Run.Trace
import RecordFlow.Run.Basic

/-!
# Breach — when a run is aborted

A breach of the threshold is noted by the collector and outlives everything that comes later, also
the rate that caused it.  A run is aborted for it, unless its output failed.
-/

namespace RecordFlow
namespace Run

@[simp]
theorem collector_launch (options : RunOptions) (output : Output) (files : Files)
    (created start : Instant) :
    ((ofOptions options output created).launch files start).ledger.collector =
      .empty options.tolerance := by
  rw [launch, Flow.ledger_close]
  rfl

@[simp]
theorem output_launch (options : RunOptions) (output : Output) (files : Files)
    (created start : Instant) :
    ((ofOptions options output created).launch files start).ledger.output = output := by
  rw [launch, Flow.ledger_close]
  rfl

theorem outcome_eq_ok_iff (l : Ledger) :
    outcome l = .ok () ↔ l.collector.breached = false ∧ l.output.fault = none := by
  unfold outcome
  cases l.output.fault with
  | none => cases l.collector.breached <;> simp
  | some text => simp

end Run
end RecordFlow
