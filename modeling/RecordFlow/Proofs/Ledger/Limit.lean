import RecordFlow.Proofs.Ledger.Cancelling

/-!
# Limit — the accounts with a limit of errors

With a limit the collector keeps the first errors and no more of them than that.  The accounts learn
of it when an error is turned away: filling the last place is no reason to cancel the run, and the
next error is.

* `Collector.entries_performAll_of_limited` and `Ledger.causes_accountAll_of_limited` tell what is
  kept,
* `Ledger.cancelled_accountAll_iff_of_limited` tells when the accounts have cancelled the run.
-/

namespace RecordFlow

theorem take_take_append {α : Type} (n : Nat) (xs ys : List α) :
    (xs.take n ++ ys).take n = (xs ++ ys).take n := by
  rw [List.take_append, List.take_append, List.take_take, Nat.min_self, List.length_take]
  congr 2
  omega

namespace Collector

variable {c : Collector}

/-! ## Operations under a limit -/

theorem length_entries_le (hcount : c.count ≤ c.tolerance.maxErrors) :
    c.entries.length ≤ c.tolerance.maxErrors := by
  rwa [length_entries]

theorem isFull_iff_of_limited (hlimit : 0 < c.tolerance.maxErrors) :
    c.isFull = true ↔ c.tolerance.maxErrors ≤ c.count := by
  simp [isFull, hlimit]

/-- One more entry is kept if it is not beyond the limit. -/
theorem take_entries_append (hcount : c.count ≤ c.tolerance.maxErrors)
    (hlimit : 0 < c.tolerance.maxErrors) (e : Entry) :
    (c.entries ++ [e]).take c.tolerance.maxErrors =
      if c.isFull = true then c.entries else c.entries ++ [e] := by
  by_cases hfull : c.isFull = true
  · have hlength : c.entries.length = c.tolerance.maxErrors := by
      apply Nat.le_antisymm (length_entries_le hcount)
      rw [length_entries]
      exact (isFull_iff_of_limited hlimit).1 hfull
    rw [if_pos hfull, ← hlength]
    exact List.take_left
  · have hroom : c.count < c.tolerance.maxErrors :=
      Nat.lt_of_not_le fun h => hfull ((isFull_iff_of_limited hlimit).2 h)
    rw [if_neg hfull]
    apply List.take_of_length_le
    rw [List.length_append, c.length_entries]
    exact hroom

theorem entries_perform_of_limited (hlimit : 0 < c.tolerance.maxErrors)
    (hcount : c.count ≤ c.tolerance.maxErrors) {op : Operation} (hkeeps : op.isClear = false) :
    (c.perform op).1.entries =
      (c.entries ++ op.added?.toList).take c.tolerance.maxErrors := by
  cases op with
  | add error record time =>
    rw [Operation.added?_add, Option.toList_some, take_entries_append hcount hlimit]
    cases hfull : c.isFull <;> simp [perform, add, hfull]
  | addAs category error record time =>
    rw [Operation.added?_addAs, Option.toList_some, take_entries_append hcount hlimit]
    cases hfull : c.isFull <;> simp [perform, addAs, hfull]
  | countProcessed =>
    have hall : c.entries.take c.tolerance.maxErrors = c.entries :=
      List.take_of_length_le (length_entries_le hcount)
    simp [perform, Operation.added?, hall]
  | clear => cases hkeeps

/-- Under a limit the first entries are kept, as many as there is room for. -/
theorem entries_performAll_of_limited (hlimit : 0 < c.tolerance.maxErrors)
    (hcount : c.count ≤ c.tolerance.maxErrors) {ops : List Operation}
    (hkeep : ∀ op ∈ ops, op.isClear = false) :
    (c.performAll ops).entries =
      (c.entries ++ ops.filterMap Operation.added?).take c.tolerance.maxErrors := by
  induction ops generalizing c with
  | nil =>
    rw [performAll_nil, List.filterMap_nil, List.append_nil]
    exact (List.take_of_length_le (length_entries_le hcount)).symm
  | cons op ops ih =>
    have hfirst := entries_perform_of_limited hlimit hcount (hkeep op List.mem_cons_self)
    have hlimit' : 0 < (c.perform op).1.tolerance.maxErrors := by rwa [tolerance_perform]
    have hcount' : (c.perform op).1.count ≤ (c.perform op).1.tolerance.maxErrors := by
      rw [← length_entries, hfirst, tolerance_perform]
      exact List.length_take_le _ _
    have hrest := ih hlimit' hcount' fun op hop => hkeep op (List.mem_cons_of_mem _ hop)
    calc ((c.perform op).1.performAll ops).entries
        = ((c.perform op).1.entries ++ ops.filterMap Operation.added?).take
            c.tolerance.maxErrors := by rw [hrest, tolerance_perform]
      _ = ((c.entries ++ op.added?.toList) ++ ops.filterMap Operation.added?).take
            c.tolerance.maxErrors := by rw [hfirst, take_take_append]
      _ = (c.entries ++ (op :: ops).filterMap Operation.added?).take c.tolerance.maxErrors := by
          cases hadded : op.added? <;> simp [hadded]

end Collector

namespace Ledger

variable {l : Ledger} (history : List (Moment × Event))

/-! ## Events under a limit -/

/-- Under a limit the collector keeps the errors that come first. -/
theorem causes_accountAll_of_limited (hlimit : 0 < l.collector.tolerance.maxErrors)
    (hcount : l.collector.count ≤ l.collector.tolerance.maxErrors) :
    (l.accountAll history).collector.causes =
      (l.collector.causes ++ history.filterMap fun e => e.2.collected?).take
        l.collector.tolerance.maxErrors := by
  have hentries := Collector.entries_performAll_of_limited hlimit hcount
    (isClear_operations history)
  rw [Collector.causes, collector_accountAll, hentries, added?_operations, List.map_take,
    List.map_append, map_cause_noted]
  rfl

theorem count_accountAll_of_limited (hlimit : 0 < l.collector.tolerance.maxErrors)
    (hcount : l.collector.count ≤ l.collector.tolerance.maxErrors) :
    (l.accountAll history).collector.count =
      min l.collector.tolerance.maxErrors
        (l.collector.count + (history.filterMap fun e => e.2.collected?).length) := by
  have hlength : ∀ c : Collector, c.causes.length = c.count := fun c =>
    (List.length_map _).trans c.length_entries
  rw [← hlength, causes_accountAll_of_limited history hlimit hcount, List.length_take,
    List.length_append, hlength]

/-- Some event finds no room exactly when there are more errors than there is room for. -/
theorem meets_overflows_iff_of_limited (hlimit : 0 < l.collector.tolerance.maxErrors)
    (hcount : l.collector.count ≤ l.collector.tolerance.maxErrors) :
    Meets (fun l e => l.account e.1 e.2) Overflows l history ↔
      l.collector.tolerance.maxErrors <
        l.collector.count + (history.filterMap fun e => e.2.collected?).length := by
  induction history using List.reverseRecOn with
  | nil => simpa [not_meets_nil] using hcount
  | append_singleton history last ih =>
    have hfull : (l.accountAll history).collector.isFull = true ↔
        l.collector.tolerance.maxErrors ≤
          l.collector.count + (history.filterMap fun e => e.2.collected?).length := by
      rw [Collector.isFull_iff_of_limited, tolerance_accountAll,
        count_accountAll_of_limited history hlimit hcount]
      · omega
      · rwa [tolerance_accountAll]
    rw [meets_append_singleton, ih, ← accountAll, Overflows, hfull, List.filterMap_append,
      List.length_append]
    cases hcollected : last.2.collected? with
    | none => simp [hcollected]
    | some e =>
      -- the last error overflows if the ones before it have taken every place
      simp only [Option.isSome_some, true_and, List.filterMap_cons, List.filterMap_nil, hcollected,
        List.length_singleton]
      omega

/-- Under a limit the accounts have cancelled the run exactly when there were more errors than it
allows, or a line was lost. -/
theorem cancelled_accountAll_iff_of_limited (hlimit : 0 < l.collector.tolerance.maxErrors)
    (hcount : l.collector.count ≤ l.collector.tolerance.maxErrors) :
    (l.accountAll history).cancelled = true ↔
      l.cancelled = true ∨
        l.collector.tolerance.maxErrors <
          l.collector.count + (history.filterMap fun e => e.2.collected?).length ∨
        l.output.Loses (history.filterMap fun e => e.2.line?) := by
  rw [cancelled_accountAll_iff, meets_overflows_iff_of_limited history hlimit hcount,
    meets_spills_iff]

end Ledger
end RecordFlow
