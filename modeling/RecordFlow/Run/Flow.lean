import RecordFlow.Ledger
import RecordFlow.Pool.Schedule
import RecordFlow.Source.Reading

/-!
# Flow — everything in a run that goes on at one time

Sources, workers and accounts are joined by streams: the records go to the workers, the results to
the accounts, and so do the errors of both.  All of them stand under one scope.  A move of a flow is
one step of one of them; any order of moves may happen.

A flow has ended when every source and every worker has, and all streams to the accounts are empty.
-/

namespace RecordFlow

structure Flow where
  reading : Source.Reading
  /-- Errors of sources that are not yet accounted for. -/
  rejections : Channel RecordError
  pool : Pool
  ledger : Ledger

namespace Flow

/-- A step of a part of the flow. -/
inductive Move where
  | source (i : Nat)
  /-- A source gives up because the scope is cancelled. -/
  | sourceQuit (i : Nat)
  | worker (move : Pool.Move)
  /-- The accounts take the next result. -/
  | result (time : Moment)
  /-- The accounts take the next error of a source. -/
  | rejection (time : Moment)
  /-- The accounts take the next error that a worker sent ahead. -/
  | forwarded (time : Moment)
  /-- The scope follows the collector. -/
  | escalate
  /-- The scope is cancelled from outside. -/
  | stop
deriving DecidableEq, Repr

/-! ## Sources -/

/-- What the streams have for an emission. -/
def offer (f : Flow) : Source.Emission → Offer
  | .record _ => f.pool.input.offer
  | _ => f.rejections.offer

/-- Puts an emission on its stream. -/
def emit (f : Flow) : Source.Emission → Flow
  | .record r => { f with pool := { f.pool with input := f.pool.input.push r } }
  | .rejected error r => { f with rejections := f.rejections.push ⟨error, some r⟩ }
  | .failure error => { f with rejections := f.rejections.push ⟨error, none⟩ }

/-- The streams of the sources close when all sources have ended. -/
def close (f : Flow) : Flow :=
  if f.reading.isFinished then
    { f with
      rejections := { f.rejections with closed := true }
      pool := { f.pool with input := { f.pool.input with closed := true } } }
  else f

def source? (f : Flow) (i : Nat) : Option Flow := do
  let (reading, emission) ← f.reading.advance? f.pool.scope f.offer i
  let f := { f with reading }
  pure (match emission with
    | some e => (f.emit e).close
    | none => f.close)

def sourceQuit? (f : Flow) (i : Nat) : Option Flow := do
  let reading ← f.reading.quit? f.pool.scope i
  pure { f with reading }.close

/-! ## Accounts -/

/-- Accounts for an event; the scope follows the accounts. -/
def account (f : Flow) (time : Moment) (e : Event) : Flow :=
  let ledger := f.ledger.account time e
  { f with
    ledger
    pool := { f.pool with scope := f.pool.scope.cancelIf ledger.cancelled } }

def result? (f : Flow) (time : Moment) : Option Flow := do
  let (r, results) ← f.pool.results.receive?
  pure ({ f with pool := { f.pool with results } }.account time (.result r))

def rejection? (f : Flow) (time : Moment) : Option Flow := do
  let (e, rejections) ← f.rejections.receive?
  pure ({ f with rejections }.account time (.reading e))

def forwarded? (f : Flow) (time : Moment) : Option Flow := do
  let (e, errors) ← f.pool.errors.receive?
  pure ({ f with pool := { f.pool with errors } }.account time (.processing e))

/-- Cancels the scope when the collector has cancelled its own. -/
def escalate? (f : Flow) : Option Flow :=
  if f.ledger.collector.cancelled && !f.pool.scope.cancelled then
    some { f with pool := f.pool.cancel }
  else none

/-! ## Moves -/

def step? (handler : Handler) (f : Flow) : Move → Option Flow
  | .source i => f.source? i
  | .sourceQuit i => f.sourceQuit? i
  | .worker move => (f.pool.step? handler move).map fun pool => { f with pool }
  | .result time => f.result? time
  | .rejection time => f.rejection? time
  | .forwarded time => f.forwarded? time
  | .escalate => f.escalate?
  | .stop => some { f with pool := f.pool.cancel }

/-- One move leads to another state of the flow. -/
def Steps (handler : Handler) (f g : Flow) : Prop :=
  ∃ move, f.step? handler move = some g

/-- Some moves lead to another state of the flow. -/
inductive Reaches (handler : Handler) : Flow → Flow → Prop where
  | refl (f : Flow) : Reaches handler f f
  | tail {f g h : Flow} : Reaches handler f g → Steps handler g h → Reaches handler f h

def isEnded (f : Flow) : Bool :=
  f.reading.isFinished && f.pool.isGone && f.rejections.queue.isEmpty &&
    f.pool.results.queue.isEmpty && f.pool.errors.queue.isEmpty

end Flow
end RecordFlow
