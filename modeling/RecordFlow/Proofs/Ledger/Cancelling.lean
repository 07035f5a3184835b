import RecordFlow.Proofs.Ledger.Entries

/-!
# Cancelling — when the accounts stop a run

The accounts cancel a run for two reasons: an error comes when the limit of errors has been reached,
or the write of a line fails.  `Ledger.cancelled_accountAll_iff` says that there is no other one.
-/

namespace RecordFlow
namespace Ledger

/-- Whether an event comes with an error that the collector has no room for. -/
def Overflows (l : Ledger) (e : Moment × Event) : Prop :=
  e.2.collected?.isSome = true ∧ l.collector.isFull = true

/-- Whether an event comes with a line the write of which fails. -/
def Spills (l : Ledger) (e : Moment × Event) : Prop :=
  ∃ line, e.2.line? = some line ∧ (l.output.write line).2 = true

/-! ## One event -/

theorem cancelled_count (l : Ledger) (r : Result) : (l.count r).cancelled = l.cancelled := rfl

theorem isFull_count (l : Ledger) (r : Result) :
    (l.count r).collector.isFull = l.collector.isFull := by
  have hcounted : l.collector.counted.isFull = l.collector.isFull := rfl
  have hevaluated : l.collector.counted.evaluate.isFull = l.collector.counted.isFull := by
    unfold Collector.evaluate
    split <;> rfl
  rcases l.collector.countProcessed_cases with ⟨_, h⟩ | ⟨_, h⟩
  · rw [count, h, hcounted]
  · rw [count, h, hevaluated, hcounted]

theorem cancelled_collect (l : Ledger) (time : Moment) (e : RecordError) :
    (l.collect time e).cancelled = (l.cancelled || l.collector.isFull) := by
  unfold collect
  rcases l.collector.add_cases e.error e.record time with ⟨hfull, h⟩ | ⟨hroom, _, _, h⟩
  · simp [h, hfull, cancelIf, Collector.limitReached, metLimit]
  · -- a breach of the threshold is no reason to cancel here
    cases hbreaks : (l.collector.push (.ofError e.error e.record time)).breaks <;>
      simp_all [cancelIf, metLimit]

theorem cancelled_write (l : Ledger) (line : String) :
    (l.write line).cancelled = (l.cancelled || (l.output.write line).2) := rfl

theorem cancelled_accountResult_iff (l : Ledger) (time : Moment) (r : Result) :
    (l.accountResult time r).cancelled = true ↔
      l.cancelled = true ∨ l.Overflows (time, .result r) ∨ l.Spills (time, .result r) := by
  rcases r with ⟨r, decision⟩
  cases decision with
  | success payload =>
    have hcancelled := cancelled_write (l.count ⟨r, .success payload⟩) payload.render
    have houtput : (l.count ⟨r, .success payload⟩).output = l.output := rfl
    simp [accountResult, Result.uncollected?, Result.payload?, hcancelled, houtput,
      cancelled_count, Overflows, Spills, Event.collected?, Event.line?, Event.counted?]
  | skipped =>
    simp [accountResult, Result.uncollected?, Result.payload?, cancelled_count, Overflows, Spills,
      Event.collected?, Event.line?, Event.counted?]
  | failed error forwarded =>
    cases forwarded with
    | true =>
      simp [accountResult, Result.uncollected?, Result.payload?, cancelled_count, Overflows,
        Spills, Event.collected?, Event.line?, Event.counted?]
    | false =>
      simp [accountResult, Result.uncollected?, Result.payload?, cancelled_collect,
        cancelled_count, isFull_count, Overflows, Spills, Event.collected?, Event.line?,
        Event.counted?]

theorem cancelled_account_iff (l : Ledger) (e : Moment × Event) :
    (l.account e.1 e.2).cancelled = true ↔
      l.cancelled = true ∨ l.Overflows e ∨ l.Spills e := by
  rcases e with ⟨time, e⟩
  cases e with
  | result r => exact l.cancelled_accountResult_iff time r
  | processing e =>
    simp [account, cancelled_collect, Overflows, Spills, Event.collected?, Event.line?,
      Event.counted?]
  | reading e =>
    rcases e with ⟨error, _ | r⟩
    · simp [account, cancelled_collect, Overflows, Spills, Event.collected?, Event.line?,
        Event.counted?]
    · exact l.cancelled_accountResult_iff time ⟨r, .failed error false⟩

/-! ## Events in turn -/

/-- The accounts have cancelled the run if they had before, or if one of the events met a full
collector or an output that failed. -/
theorem cancelled_accountAll_iff (l : Ledger) (history : List (Moment × Event)) :
    (l.accountAll history).cancelled = true ↔
      l.cancelled = true ∨ Meets (fun l e => l.account e.1 e.2) Overflows l history ∨
        Meets (fun l e => l.account e.1 e.2) Spills l history := by
  -- from the last event, which meets the ledger that the others have left
  induction history using List.reverseRecOn with
  | nil => simp [not_meets_nil]
  | append_singleton history last ih =>
    have hlast : l.accountAll (history ++ [last]) =
        (l.accountAll history).account last.1 last.2 := by
      rw [accountAll_append, accountAll_cons, accountAll_nil]
    rw [hlast, cancelled_account_iff, ih, meets_append_singleton, meets_append_singleton]
    unfold accountAll
    tauto

/-- To meet an output that fails is to lose one of the lines. -/
theorem meets_spills_iff (l : Ledger) (history : List (Moment × Event)) :
    Meets (fun l e => l.account e.1 e.2) Spills l history ↔
      l.output.Loses (history.filterMap fun e => e.2.line?) := by
  induction history using List.reverseRecOn with
  | nil => simp [Output.Loses, not_meets_nil]
  | append_singleton history last ih =>
    have houtput := l.output_accountAll history
    rw [meets_append_singleton, ih, List.filterMap_append, ← accountAll, Spills, houtput]
    cases hline : last.2.line? with
    | none => simp [hline]
    | some line =>
      have hlines : [last].filterMap (fun e => e.2.line?) = [line] := by simp [hline]
      rw [hlines, Output.Loses, meets_append_singleton]
      simp [Output.writeAll]

/-- A line that is lost stops the run. -/
theorem cancelled_of_loses {l : Ledger} {history : List (Moment × Event)}
    (hloses : l.output.Loses (history.filterMap fun e => e.2.line?)) :
    (l.accountAll history).cancelled = true :=
  (l.cancelled_accountAll_iff history).2 (.inr (.inr ((l.meets_spills_iff history).2 hloses)))

/-- Without a limit only a line that is lost stops the run. -/
theorem cancelled_accountAll_iff_of_unlimited {l : Ledger}
    (hunlimited : l.collector.tolerance.maxErrors = 0) (history : List (Moment × Event)) :
    (l.accountAll history).cancelled = true ↔
      l.cancelled = true ∨ l.output.Loses (history.filterMap fun e => e.2.line?) := by
  have hnever : ¬ Meets (fun l e => l.account e.1 e.2) Overflows l history := by
    rintro ⟨before, e, after, _, _, hfull⟩
    have hroom : (l.accountAll before).collector.isFull = false := by
      apply Collector.isFull_of_unlimited
      rw [tolerance_accountAll, hunlimited]
    rw [accountAll] at hroom
    rw [hroom] at hfull
    cases hfull
  rw [cancelled_accountAll_iff, meets_spills_iff]
  tauto

end Ledger
end RecordFlow
