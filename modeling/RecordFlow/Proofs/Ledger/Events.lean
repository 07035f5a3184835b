import Mathlib.Data.List.Basic
import RecordFlow.Ledger
import RecordFlow.Proofs.Collector.Operations
import RecordFlow.Proofs.Ledger.Lines

/-!
# Events — what a ledger does with each of its parts

An event counts a result, or collects an error, or writes a line, or does several of these.  Each
part of a ledger goes through its own share of the events and knows nothing of the others:

* `Ledger.collector_accountAll` for the collector,
* `Ledger.output_accountAll` for the output,
* `Ledger.summary_accountAll` and `Ledger.board_accountAll` for the counters.
-/

namespace RecordFlow

namespace Event

/-- The result that an event counts. -/
def counted? : Event → Option Result
  | .result r => some r
  | .reading ⟨error, some r⟩ => some ⟨r, .failed error false⟩
  | .reading ⟨_, none⟩ => none
  | .processing _ => none

/-- The error that an event collects. -/
def collected? : Event → Option RecordError
  | .result r => r.uncollected?.map fun error => ⟨error, some r.record⟩
  | .reading e => some e
  | .processing e => some e

/-- The line that an event writes. -/
def line? (e : Event) : Option String :=
  e.counted?.bind fun r => r.payload?.map Json.render

/-- What an event does to the collector. -/
def operations (time : Moment) (e : Event) : List Collector.Operation :=
  (e.counted?.map fun _ => .countProcessed).toList ++
    (e.collected?.map fun e => .add e.error e.record time).toList

end Event

/-- Counts results on a board in turn. -/
def Board.recordAll (b : Board) (results : List Result) : Board :=
  results.foldl (fun b r => b.record r.record.source r.status) b

/-- Counts results in a summary in turn. -/
def Summary.addAll (s : Summary) (results : List Result) : Summary :=
  results.foldl (fun s r => s.add r.status) s

namespace Ledger

/-! ## One event -/

/-- To account for a result is to count it, to collect its error and to write its line. -/
theorem accountResult_parts (l : Ledger) (time : Moment) (r : Result) :
    (l.accountResult time r).collector =
      l.collector.countProcessed.performAll
        ((r.uncollected?.map fun error => .add error (some r.record) time).toList) ∧
    (l.accountResult time r).output =
      l.output.writeAll (r.payload?.map Json.render).toList ∧
    (l.accountResult time r).board = l.board.record r.record.source r.status ∧
    (l.accountResult time r).summary = l.summary.add r.status := by
  rcases r with ⟨r, decision⟩
  cases decision with
  | success payload => exact ⟨rfl, rfl, rfl, rfl⟩
  | skipped => exact ⟨rfl, rfl, rfl, rfl⟩
  | failed error forwarded => cases forwarded <;> exact ⟨rfl, rfl, rfl, rfl⟩

theorem account_parts (l : Ledger) (time : Moment) (e : Event) :
    (l.account time e).collector = l.collector.performAll (e.operations time) ∧
    (l.account time e).output = l.output.writeAll e.line?.toList ∧
    (l.account time e).board = l.board.recordAll e.counted?.toList ∧
    (l.account time e).summary = l.summary.addAll e.counted?.toList := by
  cases e with
  | result r =>
    rcases l.accountResult_parts time r with ⟨hcollector, houtput, hboard, hsummary⟩
    refine ⟨?_, houtput, hboard, hsummary⟩
    rw [account, hcollector]
    cases huncollected : r.uncollected? <;>
      simp [Event.operations, Event.counted?, Event.collected?, huncollected, Collector.perform]
  | reading e =>
    rcases e with ⟨error, _ | r⟩
    · exact ⟨rfl, rfl, rfl, rfl⟩
    · exact l.accountResult_parts time ⟨r, .failed error false⟩
  | processing e => exact ⟨rfl, rfl, rfl, rfl⟩

/-! ## Events in turn -/

@[simp]
theorem accountAll_nil (l : Ledger) : l.accountAll [] = l := rfl

@[simp]
theorem accountAll_append (l : Ledger) (before after : List (Moment × Event)) :
    l.accountAll (before ++ after) = (l.accountAll before).accountAll after := by
  simp [accountAll]

@[simp]
theorem accountAll_cons (l : Ledger) (time : Moment) (e : Event) (rest : List (Moment × Event)) :
    l.accountAll ((time, e) :: rest) = (l.account time e).accountAll rest := rfl

/-- A part of a ledger that goes through its share of one event goes through its share of all. -/
theorem part_accountAll {σ α : Type} (part : Ledger → σ) (step : σ → α → σ)
    (share : Moment × Event → List α)
    (hstep : ∀ l e, part (l.account e.1 e.2) = (share e).foldl step (part l))
    (l : Ledger) (history : List (Moment × Event)) :
    part (l.accountAll history) = (history.flatMap share).foldl step (part l) := by
  induction history generalizing l with
  | nil => rfl
  | cons e rest ih => rw [accountAll_cons, ih, hstep, List.flatMap_cons, List.foldl_append]

theorem collector_accountAll (l : Ledger) (history : List (Moment × Event)) :
    (l.accountAll history).collector =
      l.collector.performAll (history.flatMap fun e => e.2.operations e.1) :=
  part_accountAll collector _ _ (fun l e => (l.account_parts e.1 e.2).1) l history

theorem output_accountAll (l : Ledger) (history : List (Moment × Event)) :
    (l.accountAll history).output = l.output.writeAll (history.filterMap fun e => e.2.line?) := by
  rw [List.filterMap_eq_flatMap_toList]
  exact part_accountAll output _ _ (fun l e => (l.account_parts e.1 e.2).2.1) l history

theorem board_accountAll (l : Ledger) (history : List (Moment × Event)) :
    (l.accountAll history).board =
      l.board.recordAll (history.filterMap fun e => e.2.counted?) := by
  rw [List.filterMap_eq_flatMap_toList]
  exact part_accountAll board _ _ (fun l e => (l.account_parts e.1 e.2).2.2.1) l history

theorem summary_accountAll (l : Ledger) (history : List (Moment × Event)) :
    (l.accountAll history).summary =
      l.summary.addAll (history.filterMap fun e => e.2.counted?) := by
  rw [List.filterMap_eq_flatMap_toList]
  exact part_accountAll summary _ _ (fun l e => (l.account_parts e.1 e.2).2.2.2) l history

end Ledger
end RecordFlow
