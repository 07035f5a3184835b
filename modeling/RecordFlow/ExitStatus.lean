/-!
# Exit status — the code that a process ends with

A run stopped by a signal ends with 128 and the number of the signal; every signal but the request
to terminate counts as an interrupt.
-/

namespace RecordFlow

inductive ExitStatus where
  | success
  | failure
  | usage
  /-- The program came to an end in the middle of its work. -/
  | crashed
  | interrupted
  | brokenPipe
  | terminated
deriving DecidableEq, Repr, Inhabited

namespace ExitStatus

def code : ExitStatus → Nat
  | .success => 0
  | .failure => 1
  | .usage => 2
  | .crashed => 101
  | .interrupted => 130
  | .brokenPipe => 141
  | .terminated => 143

/-- The number of the request to terminate. -/
def terminate : Int := 15

/-- The status of a run that a signal stopped. -/
def ofSignal (signal : Int) : ExitStatus :=
  if signal = terminate then .terminated else .interrupted

end ExitStatus
end RecordFlow
