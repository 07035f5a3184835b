import RecordFlow.Collector
import RecordFlow.Output
import RecordFlow.Json.Printer
import RecordFlow.Pool.Basic
import RecordFlow.Progress.Board
import RecordFlow.Summary

/-!
# Ledger — the accounts of a run

Three streams of events are accounted for: results of the workers, errors of the sources, and errors
that the workers sent ahead.  A result counts on the board, in the summary and for the collector;
its error is collected unless it was sent ahead; its payload is a line of output.  An error of a
source that rejects a record counts as a failed result.

Reaching the limit of errors and failing to write cancel the run.
-/

namespace RecordFlow

/-- Something to account for. -/
inductive Event where
  | result (r : Result)
  /-- An error of a source. -/
  | reading (e : RecordError)
  /-- An error that a worker sent ahead of its result. -/
  | processing (e : RecordError)
deriving Inhabited

structure Ledger where
  board : Board
  summary : Summary
  collector : Collector
  output : Output
  /-- Whether the accounts have cancelled the run. -/
  cancelled : Bool

namespace Ledger

def cancelIf (l : Ledger) (condition : Bool) : Ledger :=
  { l with cancelled := l.cancelled || condition }

/-- Whether an attempt to collect an error met the limit. -/
def metLimit : Except FlowError Unit → Bool
  | .error (.limitReached _) => true
  | _ => false

def collect (l : Ledger) (time : Moment) (e : RecordError) : Ledger :=
  let (collector, outcome) := l.collector.add e.error e.record time
  { l with collector }.cancelIf (metLimit outcome)

def write (l : Ledger) (line : String) : Ledger :=
  let (output, failed) := l.output.write line
  { l with output }.cancelIf failed

def count (l : Ledger) (r : Result) : Ledger :=
  { l with
    board := l.board.record r.record.source r.status
    summary := l.summary.add r.status
    collector := l.collector.countProcessed }

def accountResult (l : Ledger) (time : Moment) (r : Result) : Ledger :=
  let l := l.count r
  let l := match r.uncollected? with
    | some error => l.collect time ⟨error, some r.record⟩
    | none => l
  match r.payload? with
  | some payload => l.write payload.render
  | none => l

def account (l : Ledger) (time : Moment) : Event → Ledger
  | .result r => l.accountResult time r
  | .reading ⟨error, some r⟩ => l.accountResult time ⟨r, .failed error false⟩
  | .reading ⟨error, none⟩ => l.collect time ⟨error, none⟩
  | .processing e => l.collect time e

/-- Accounts for events in turn, each with its time. -/
def accountAll (l : Ledger) (events : List (Moment × Event)) : Ledger :=
  events.foldl (fun l e => l.account e.1 e.2) l

end Ledger
end RecordFlow
