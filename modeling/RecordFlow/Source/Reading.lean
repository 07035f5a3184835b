import RecordFlow.Channel
import RecordFlow.Source.Emission

/-!
# Reading — all sources at one time

Every source is read by a task of its own.  A task publishes the header of its source before it
compares it, or the fact that there is none; the comparison waits until every earlier source has
published one or the other.  Then the task emits what its source gives, one emission at a time, and
looks whether the scope is cancelled before each.

The header that a source is compared with is the first one published by an earlier source, so that
it does not matter in which order the tasks take their steps.
-/

namespace RecordFlow
namespace Source

/-! ## Headers -/

/-- What a source has told the others about its header. -/
inductive Slot where
  | pending
  | failed
  | ready (header : List String)
deriving DecidableEq, Repr, Inhabited

/-- What the earlier sources have told. -/
inductive Agreement where
  /-- Not enough yet. -/
  | undecided
  /-- No earlier source has a header. -/
  | free
  /-- The header of the first that has one. -/
  | bound (header : List String)
deriving DecidableEq, Repr

/-- Goes through the slots of the earlier sources from the first. -/
def agreement : List Slot → Agreement
  | [] => .free
  | .ready header :: _ => .bound header
  | .failed :: rest => agreement rest
  | .pending :: _ => .undecided

/-- Fills a slot, unless it has been filled. -/
def publish (i : Nat) (slot : Slot) (slots : List Slot) : List Slot :=
  slots.modify i fun old => if old = .pending then slot else old

/-! ## Tasks -/

/-- Where the task of a source is. -/
inductive Task where
  /-- Is about to open its source, and what it will find. -/
  | opening (source : Except FlowError Opened)
  /-- Has published the header of its source, and waits for what the earlier ones tell. -/
  | comparing (source : Opened)
  /-- Is between two rows. -/
  | reading (rest : List Emission)
  /-- Has an emission, and looks whether the scope is cancelled. -/
  | offering (e : Emission) (rest : List Emission)
  /-- Waits for room or for the cancellation. -/
  | sending (e : Emission) (rest : List Emission)
  /-- Is about to tell that nothing more comes, and to report the error it ended with. -/
  | closing (failure : Option FlowError)
  | finished
deriving Inhabited

namespace Task

def isFinished : Task → Bool
  | .finished => true
  | _ => false

def delivered (e : Emission) (rest : List Emission) : Task :=
  match e with
  | .failure _ => .finished
  | _ => .reading rest

def givenUp (e : Emission) : Task :=
  match e with
  | .failure _ => .finished
  | _ => .closing none

def afterLook (cancelled : Bool) : List Emission → Task
  | [] => .closing none
  | e :: rest =>
    if cancelled then .closing none
    else match e with
      | .failure error => .closing (some error)
      | e => .offering e rest

end Task

/-! ## Steps -/

/-- The tasks of all sources, and what they have published. -/
structure Reading where
  options : Options
  slots : List Slot
  tasks : List Task

namespace Reading

def ofSources (options : Options) (sources : List (Except FlowError Opened)) : Reading :=
  ⟨options, sources.map fun _ => .pending, sources.map .opening⟩

def isFinished (r : Reading) : Bool := r.tasks.all Task.isFinished

def setTask (r : Reading) (i : Nat) (task : Task) : Reading :=
  { r with tasks := r.tasks.set i task }

def publish (r : Reading) (i : Nat) (slot : Slot) : Reading :=
  { r with slots := Source.publish i slot r.slots }

def opened (r : Reading) (i : Nat) : Except FlowError Opened → Reading
  | .error e => r.setTask i (.closing (some e))
  | .ok o =>
    match o.agreed? r.options with
    | some header => (r.publish i (.ready header)).setTask i (.comparing o)
    | none => r.setTask i (.reading (o.body r.options))

/-- Compares the header of a source; `expected` is the one to find. -/
def compared (r : Reading) (i : Nat) (o : Opened) (expected : Option (List String)) : Reading :=
  match o.mismatch? expected with
  | some e => r.setTask i (.closing (some e))
  | none => r.setTask i (.reading (o.body r.options))

/-- The next step of a task, and what it emits; `none` if it has to wait or has ended.  `offer` is
what the streams have for an emission. -/
def advance? (r : Reading) (scope : Scope) (offer : Emission → Offer) (i : Nat) :
    Option (Reading × Option Emission) := do
  match ← r.tasks[i]? with
  | .opening source => pure (r.opened i source, none)
  | .comparing o =>
    match agreement (r.slots.take i) with
    | .bound header => pure (r.compared i o (some header), none)
    | .free => pure (r.compared i o none, none)
    | .undecided => if scope.cancelled then pure (r.compared i o none, none) else failure
  | .reading rest => pure (r.setTask i (Task.afterLook scope.cancelled rest), none)
  | .offering e rest =>
    pure (r.setTask i (if scope.cancelled then Task.givenUp e else .sending e rest), none)
  | .sending e rest =>
    match offer e with
    | .accepted => pure (r.setTask i (Task.delivered e rest), some e)
    | .full => failure
    | .refused => pure (r.setTask i (Task.givenUp e), none)
  | .closing error =>
    let next : Task := match error with
      | some error => .offering (.failure error) []
      | none => .finished
    pure ((r.publish i .failed).setTask i next, none)
  | .finished => failure

/-- A task that waits for room gives up because the scope is cancelled. -/
def quit? (r : Reading) (scope : Scope) (i : Nat) : Option Reading := do
  match ← r.tasks[i]? with
  | .sending e _ => if scope.cancelled then pure (r.setTask i (Task.givenUp e)) else none
  | _ => none

end Reading
end Source
end RecordFlow
