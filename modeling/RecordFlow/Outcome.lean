import RecordFlow.Record

/-!
# Outcome — what becomes of a record

A processor looks at one record and decides on it: its JSON form, nothing, a rejection, or an error
of its own.  What it decides may depend on the calls before: a handler has one processor a call.
A result is the record together with the decision; a result of an error also says whether the error
already went out on the workers' error stream.
-/

namespace RecordFlow

/-- What a processor decides about a record. -/
inductive Verdict where
  | success (payload : Json)
  | skipped
  /-- The record was handled and rejected. -/
  | failed (error : FlowError)
  /-- The processor itself failed. -/
  | errored (error : FlowError)
  /-- The processor broke off and takes its worker with it. -/
  | crashed
deriving Inhabited

/-- A verdict, and what the processor did to the run besides. -/
structure Response where
  verdict : Verdict
  cancels : Bool := false
  signal : Option Int := none
deriving Inhabited

/-- A processor sees whether the run is cancelled, and one record. -/
abbrev Processor := Bool → Record → Response

/-- The processors that the calls of a pool meet, one call after another. -/
structure Handler where
  answer : Nat → Processor

/-- A processor that is the same at every call. -/
instance : Coe Processor Handler := ⟨fun processor => ⟨fun _ => processor⟩⟩

inductive Status where
  | success
  | failed
  | skipped
deriving DecidableEq, Repr, Inhabited

def Status.label : Status → String
  | .success => "SUCCESS"
  | .failed => "FAILED"
  | .skipped => "SKIPPED"

/-- What a record came to. -/
inductive Decision where
  | success (payload : Json)
  | failed (error : FlowError) (forwarded : Bool)
  | skipped
deriving Inhabited

structure Result where
  record : Record
  decision : Decision
deriving Inhabited

namespace Result

def status (r : Result) : Status :=
  match r.decision with
  | .success _ => .success
  | .failed .. => .failed
  | .skipped => .skipped

def error? (r : Result) : Option FlowError :=
  match r.decision with
  | .failed error _ => some error
  | _ => none

def payload? (r : Result) : Option Json :=
  match r.decision with
  | .success payload => some payload
  | _ => none

/-- The error that still has to be collected for a result: one not forwarded before. -/
def uncollected? (r : Result) : Option FlowError :=
  match r.decision with
  | .failed error false => some error
  | _ => none

end Result

/-- The processor that passes complete records on in their JSON form and rejects the others. -/
def validator : Processor := fun cancelled r =>
  if cancelled then ⟨.errored .cancelled, false, none⟩
  else if r.isComplete then ⟨.success r.toJson, false, none⟩
  else
    let expected := r.columns.length
    let actual := r.fields.length
    ⟨.failed (.invalidRecord (s!"expected {expected} fields, got {actual} " ++ r.place)),
      false, none⟩

end RecordFlow
