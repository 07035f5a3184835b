import RecordFlow.Number.Binary64
import RecordFlow.Outcome
import RecordFlow.Time.Duration

/-!
# Counts — how many records came to what

Four counters grow with every result: one for the status it has, and one for all.
-/

namespace RecordFlow

structure Counts where
  processed : Nat
  success : Nat
  failed : Nat
  skipped : Nat
deriving DecidableEq, Repr, Inhabited

namespace Counts

def zero : Counts := ⟨0, 0, 0, 0⟩

def add (c : Counts) (status : Status) : Counts :=
  let c := match status with
    | .success => { c with success := c.success + 1 }
    | .failed => { c with failed := c.failed + 1 }
    | .skipped => { c with skipped := c.skipped + 1 }
  { c with processed := c.processed + 1 }

/-! ### Laws -/

@[simp]
theorem processed_add (c : Counts) (status : Status) :
    (c.add status).processed = c.processed + 1 := by
  cases status <;> rfl

/-- A result counts once by its status. -/
theorem statuses_add (c : Counts) (status : Status) :
    (c.add status).success + (c.add status).failed + (c.add status).skipped =
      c.success + c.failed + c.skipped + 1 := by
  cases status <;> simp only [add] <;> omega

end Counts

/-- One number as a percentage of another, zero when there is nothing to compare with. -/
def percentage (part whole : Nat) : Binary64 :=
  if whole = 0 then .zero else Binary64.ofNat part / Binary64.ofNat whole * .ofNat 100

/-- Records per second, zero for no time. -/
def throughput (records : Nat) (time : Duration) : Binary64 :=
  let seconds := time.seconds
  if Binary64.blt .zero seconds then Binary64.ofNat records / seconds else .zero

end RecordFlow
