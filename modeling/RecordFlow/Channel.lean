import RecordFlow.Scope

/-!
# Channel — a bounded queue between threads

Senders wait while a channel is full, receivers while it is empty.  A channel is closed when it has
no sender left and abandoned when it has no receiver left; what is queued in a closed channel can
still be received, and nothing can be sent to an abandoned one.

These are the bounded channels of crossbeam, each of whose operations is taken as one step.
-/

namespace RecordFlow

structure Channel (α : Type) where
  capacity : Nat
  queue : List α
  closed : Bool
  abandoned : Bool
deriving DecidableEq, Repr, Inhabited

/-- What a channel has for a sender. -/
inductive Offer where
  | accepted
  | full
  | refused
deriving DecidableEq, Repr

/-- What comes of handing something over under a scope. -/
inductive Handover (α : Type) where
  | delivered (channel : Channel α)
  | givenUp
  | waits
deriving Repr

namespace Channel

variable {α : Type}

/-- A channel between a sender and a receiver, with nothing queued. -/
def empty (capacity : Nat) : Channel α := ⟨capacity, [], false, false⟩

/-- Whether an item can be sent now. -/
def offer (c : Channel α) : Offer :=
  if c.abandoned then .refused
  else if c.capacity ≤ c.queue.length then .full
  else .accepted

def push (c : Channel α) (item : α) : Channel α := { c with queue := c.queue ++ [item] }

def receive? (c : Channel α) : Option (α × Channel α) :=
  match c.queue with
  | [] => none
  | item :: rest => some (item, { c with queue := rest })

/-- Hands an item over, unless the scope is cancelled or there is no receiver. -/
def handOver (c : Channel α) (scope : Scope) (item : α) : Handover α :=
  if scope.cancelled then .givenUp
  else
    match c.offer with
    | .accepted => .delivered (c.push item)
    | .full => .waits
    | .refused => .givenUp

/-! ## Laws -/

@[simp]
theorem queue_push (c : Channel α) (item : α) : (c.push item).queue = c.queue ++ [item] := rfl

theorem offer_eq_accepted_iff (c : Channel α) :
    c.offer = .accepted ↔ c.abandoned = false ∧ c.queue.length < c.capacity := by
  unfold offer
  cases c.abandoned <;> simp

theorem offer_eq_refused_iff (c : Channel α) : c.offer = .refused ↔ c.abandoned = true := by
  unfold offer
  split
  · simp [*]
  · split <;> simp [*]

end Channel
end RecordFlow
