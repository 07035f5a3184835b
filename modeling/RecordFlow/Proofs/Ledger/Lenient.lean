import RecordFlow.Proofs.Collector.Forgiving
import RecordFlow.Proofs.Ledger.Events

/-!
# Lenient — accounts that nothing stops

With a collector that takes every error in and an output that never fails, the accounts never cancel
the run, and the output then holds the lines of all events in their order.
-/

namespace RecordFlow
namespace Ledger

/-- Accounts that have not stopped a run and will not. -/
structure Lenient (l : Ledger) : Prop where
  forgives : l.collector.tolerance.Forgives
  reliable : l.output.Reliable
  faultless : l.output.fault = none
  ongoing : l.cancelled = false
  collecting : l.collector.cancelled = false
  unbreached : l.collector.breached = false

variable {l : Ledger}

theorem Lenient.count (hl : l.Lenient) (r : Result) : (l.count r).Lenient := by
  have hcounted := Collector.countProcessed_of_forgives hl.forgives
  refine ⟨?_, hl.reliable, hl.faultless, hl.ongoing, ?_, ?_⟩
  · simpa [Ledger.count, hcounted] using hl.forgives
  · simpa [Ledger.count, hcounted] using hl.collecting
  · simpa [Ledger.count, hcounted] using hl.unbreached

theorem Lenient.collect (hl : l.Lenient) (time : Moment) (e : RecordError) :
    (l.collect time e).Lenient := by
  have hadded := Collector.add_of_forgives hl.forgives e.error e.record time
  refine ⟨?_, hl.reliable, hl.faultless, ?_, ?_, ?_⟩
  · simpa [Ledger.collect, cancelIf, hadded] using hl.forgives
  · simpa [Ledger.collect, cancelIf, hadded, metLimit] using hl.ongoing
  · simpa [Ledger.collect, cancelIf, hadded] using hl.collecting
  · simpa [Ledger.collect, cancelIf, hadded] using hl.unbreached

theorem Lenient.write (hl : l.Lenient) (line : String) : (l.write line).Lenient := by
  rcases hl.reliable.write line with ⟨hkept, hsink, hfault⟩
  refine ⟨hl.forgives, ?_, ?_, ?_, hl.collecting, hl.unbreached⟩
  · intro sink hsome
    exact hl.reliable sink (hsink ▸ hsome)
  · exact hfault.trans hl.faultless
  · simp [Ledger.write, cancelIf, hkept, hl.ongoing]

/-- No event stops a lenient ledger. -/
theorem Lenient.account (hl : l.Lenient) (time : Moment) (e : Event) :
    (l.account time e).Lenient := by
  have hresult : ∀ r : Result, (l.accountResult time r).Lenient := by
    intro r
    have hcounted := hl.count r
    rcases r with ⟨r, decision⟩
    cases decision with
    | success payload => exact hcounted.write _
    | skipped => exact hcounted
    | failed error forwarded =>
      cases forwarded with
      | true => exact hcounted
      | false => exact hcounted.collect time _
  cases e with
  | result r => exact hresult r
  | processing e => exact hl.collect time e
  | reading e =>
    rcases e with ⟨error, _ | r⟩
    · exact hl.collect time _
    · exact hresult ⟨r, .failed error false⟩

theorem Lenient.accountAll (hl : l.Lenient) (history : List (Moment × Event)) :
    (l.accountAll history).Lenient := by
  induction history generalizing l with
  | nil => exact hl
  | cons e rest ih => exact ih (hl.account e.1 e.2)

/-- A reliable output in use holds the lines of all events. -/
theorem Lenient.lines_accountAll (hl : l.Lenient) (hsink : l.output.sink.isSome = true)
    (history : List (Moment × Event)) :
    (l.accountAll history).output.lines =
      l.output.lines ++ history.filterMap fun e => e.2.line? := by
  rw [output_accountAll]
  exact (Output.lines_writeAll hsink (hl.reliable.not_loses _)).1

end Ledger
end RecordFlow
