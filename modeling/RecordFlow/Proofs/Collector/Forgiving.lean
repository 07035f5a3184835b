import RecordFlow.Pool.Basic
import RecordFlow.Proofs.Collector.Operations

/-!
# Forgiving — collectors that take every error in

Without a limit and without an enforced threshold a collector takes every error in and is never
breached.
-/

namespace RecordFlow

/-- No limit of errors and no threshold that is enforced. -/
structure Tolerance.Forgives (t : Tolerance) : Prop where
  unlimited : t.maxErrors = 0
  unenforced : t.enforced = false ∨ Binary64.ble t.threshold .zero = true

/-- What an entry was collected for. -/
def Entry.cause (e : Entry) : RecordError := ⟨e.error, e.record⟩

namespace Collector

/-- What the entries were collected for, in their order. -/
def causes (c : Collector) : List RecordError := c.entries.map Entry.cause

variable {c : Collector}

theorem breaks_of_forgives (hforgives : c.tolerance.Forgives) : c.breaks = false := by
  unfold breaks
  -- nothing is enforced, or there is no threshold
  rcases hforgives.unenforced with henforced | hzero
  · simp [henforced]
  · simp [hzero]

theorem evaluate_of_forgives (hforgives : c.tolerance.Forgives) : c.evaluate = c := by
  rw [evaluate, breaks_of_forgives hforgives]
  rfl

theorem add_of_forgives (hforgives : c.tolerance.Forgives) (error : FlowError)
    (record : Option Record) (time : Moment) :
    c.add error record time = (c.push (.ofError error record time), .ok ()) := by
  have hafter : (c.push (.ofError error record time)).tolerance.Forgives := hforgives
  have hroom : c.isFull = false := by simp [isFull, hforgives.unlimited]
  simp [add, hroom, evaluate_of_forgives hafter, breaks_of_forgives hafter]

theorem countProcessed_of_forgives (hforgives : c.tolerance.Forgives) :
    c.countProcessed = c.counted := by
  have hafter : c.counted.tolerance.Forgives := hforgives
  rcases c.countProcessed_cases with ⟨_, h⟩ | ⟨_, h⟩
  · exact h
  · rw [h, evaluate_of_forgives hafter]

end Collector
end RecordFlow
