import RecordFlow.Error

/-!
# Scope — cancellation that stays

A scope is either going on or cancelled.  Cancelling it succeeds once; afterwards nothing brings it
back.
-/

namespace RecordFlow

structure Scope where
  cancelled : Bool
deriving DecidableEq, Repr, Inhabited

namespace Scope

def ongoing : Scope := ⟨false⟩

/-- Cancels a scope, and tells whether this made a difference. -/
def cancel (s : Scope) : Scope × Bool := (⟨true⟩, !s.cancelled)

/-- A scope that is cancelled if a condition holds or it was before. -/
def cancelIf (s : Scope) (condition : Bool) : Scope := ⟨s.cancelled || condition⟩

def check (s : Scope) : Except FlowError Unit :=
  if s.cancelled then .error .cancelled else .ok ()

/-! ## Laws -/

@[simp]
theorem cancelled_cancel (s : Scope) : s.cancel.1.cancelled = true := rfl

@[simp]
theorem cancelled_cancelIf (s : Scope) (condition : Bool) :
    (s.cancelIf condition).cancelled = (s.cancelled || condition) := rfl

end Scope
end RecordFlow
