import RecordFlow.Scope

/-!
# Semaphore — a number of permits

A semaphore hands out permits up to its limit and takes them back.  A permit is only taken when one
is free, and only given back when one is held; a request that cannot be met waits, or ends with an
error when its deadline has passed or its scope is cancelled.
-/

namespace RecordFlow

/-- A semaphore with `held` of its permits handed out. -/
structure Semaphore where
  limit : Nat
  held : Nat
deriving DecidableEq, Repr, Inhabited

/-- What comes of asking for a permit. -/
inductive Request where
  | granted (semaphore : Semaphore)
  | refused (error : FlowError)
  | waits
deriving DecidableEq, Repr

namespace Semaphore

/-- A semaphore has a permit at least. -/
def ofLimit (limit : Nat) : Semaphore := ⟨max limit 1, 0⟩

def available (s : Semaphore) : Nat := s.limit - s.held

def tryAcquire? (s : Semaphore) : Option Semaphore :=
  if s.held < s.limit then some { s with held := s.held + 1 } else none

/-- Takes a permit, or waits for one. -/
def acquire (s : Semaphore) : Request :=
  match s.tryAcquire? with
  | some s => .granted s
  | none => .waits

/-- Takes a permit, where the deadline has come. -/
def acquireAtDeadline (s : Semaphore) : Request :=
  match s.tryAcquire? with
  | some s => .granted s
  | none => .refused .timeout

/-- Takes a permit unless the scope is cancelled, or waits for one. -/
def acquireUnder (s : Semaphore) (scope : Scope) : Request :=
  if scope.cancelled then .refused .cancelled else s.acquire

/-- Gives a permit back; `none` if none is held. -/
def release? (s : Semaphore) : Option Semaphore :=
  if s.held = 0 then none else some { s with held := s.held - 1 }

/-- The text of the failure to give back a permit that is not held. -/
def releaseFault : String := "semaphore: release without acquire"

/-! ## Laws -/

theorem tryAcquire?_eq_some_iff {s t : Semaphore} :
    s.tryAcquire? = some t ↔ s.held < s.limit ∧ t = { s with held := s.held + 1 } := by
  unfold tryAcquire?
  split
  · simp [*, eq_comm]
  · simp [*]

theorem release?_eq_some_iff {s t : Semaphore} :
    s.release? = some t ↔ s.held ≠ 0 ∧ t = { s with held := s.held - 1 } := by
  unfold release?
  split <;> simp_all [eq_comm]

end Semaphore
end RecordFlow
