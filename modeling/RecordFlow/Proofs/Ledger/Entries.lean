import RecordFlow.Proofs.Collector.Forgiving
import RecordFlow.Proofs.Ledger.Events

/-!
# Entries — what a collector keeps of the events

Of the events that a ledger goes through, the collector counts those that count a result, and it
keeps the errors of those that have one: all of them, in their order, when there is no limit, and
some of them otherwise.  Whether a threshold is enforced makes no difference.
-/

namespace RecordFlow

namespace Collector

/-! ## Operations -/

theorem isFull_of_unlimited {c : Collector} (hunlimited : c.tolerance.maxErrors = 0) :
    c.isFull = false := by
  simp [isFull, hunlimited]

theorem entries_perform {c : Collector} (hunlimited : c.tolerance.maxErrors = 0)
    {op : Operation} (hkeeps : op.isClear = false) :
    (c.perform op).1.entries = c.entries ++ op.added?.toList := by
  have hroom := isFull_of_unlimited hunlimited
  cases op with
  | add error record time => simp [perform, add, hroom]
  | addAs category error record time => simp [perform, addAs, hroom]
  | countProcessed => simp [perform, Operation.added?]
  | clear => cases hkeeps

theorem entries_performAll {c : Collector} (hunlimited : c.tolerance.maxErrors = 0)
    {ops : List Operation} (hkeep : ∀ op ∈ ops, op.isClear = false) :
    (c.performAll ops).entries = c.entries ++ ops.filterMap Operation.added? := by
  induction ops generalizing c with
  | nil => simp
  | cons op ops ih =>
    have hnext : (c.perform op).1.tolerance.maxErrors = 0 := by
      rw [tolerance_perform, hunlimited]
    have hfirst := entries_perform hunlimited (hkeep op List.mem_cons_self)
    have hrest := ih hnext fun op hop => hkeep op (List.mem_cons_of_mem _ hop)
    rw [performAll_cons, hrest, hfirst]
    cases hentry : op.added? <;> simp [hentry]

/-- With a limit some errors are not kept, and `clear` drops those that are. -/
theorem entries_performAll_sublist (c : Collector) (ops : List Operation) :
    (c.performAll ops).entries.Sublist (c.entries ++ ops.filterMap Operation.added?) := by
  have hone : ∀ (c : Collector) (op : Operation),
      (c.perform op).1.entries.Sublist (c.entries ++ op.added?.toList) := by
    intro c op
    cases op with
    | add error record time =>
      cases hfull : c.isFull <;> simp [perform, add, hfull]
    | addAs category error record time =>
      cases hfull : c.isFull <;> simp [perform, addAs, hfull]
    | countProcessed => simp [perform, Operation.added?]
    | clear => simp [perform]
  induction ops generalizing c with
  | nil => simp
  | cons op ops ih =>
    have hrest : (c.performAll (op :: ops)).entries.Sublist
        ((c.entries ++ op.added?.toList) ++ ops.filterMap Operation.added?) :=
      (ih (c.perform op).1).trans ((hone c op).append_right _)
    cases hentry : op.added? <;> simpa [hentry] using hrest

theorem processed_performAll (c : Collector) {ops : List Operation}
    (hkeep : ∀ op ∈ ops, op.isClear = false) :
    (c.performAll ops).processed = c.processed + ops.countP Operation.isCount := by
  induction ops generalizing c with
  | nil => simp
  | cons op ops ih =>
    have hrest := ih (c.perform op).1 fun op hop => hkeep op (List.mem_cons_of_mem _ hop)
    have hfirst := c.processed_perform (hkeep op List.mem_cons_self)
    rw [performAll_cons, hrest, hfirst, List.countP_cons]
    omega

end Collector

/-! ## Events -/

/-- The entry that an event gives rise to. -/
def Event.noted? (time : Moment) (e : Event) : Option Entry :=
  e.collected?.map fun e => .ofError e.error e.record time

/-- What an entry of an event was collected for. -/
theorem Event.cause_noted? (time : Moment) (e : Event) :
    (e.noted? time).map Entry.cause = e.collected? := by
  unfold noted?
  cases e.collected? <;> rfl

theorem Event.isClear_operations (time : Moment) (e : Event) :
    ∀ op ∈ e.operations time, op.isClear = false := by
  unfold operations
  cases e.counted? <;> cases e.collected? <;> simp [Collector.Operation.isClear]

theorem Event.added?_operations (time : Moment) (e : Event) :
    (e.operations time).filterMap Collector.Operation.added? = (e.noted? time).toList := by
  unfold operations noted?
  cases e.counted? <;> cases e.collected? <;> rfl

theorem Event.isCount_operations (time : Moment) (e : Event) :
    (e.operations time).countP Collector.Operation.isCount = e.counted?.toList.length := by
  unfold operations
  cases e.counted? <;> cases e.collected? <;> rfl

namespace Ledger

variable (l : Ledger) (history : List (Moment × Event))

theorem isClear_operations :
    ∀ op ∈ history.flatMap fun e => e.2.operations e.1, op.isClear = false := by
  intro op hop
  rcases List.mem_flatMap.1 hop with ⟨e, _, he⟩
  exact e.2.isClear_operations e.1 op he

theorem added?_operations :
    (history.flatMap fun e => e.2.operations e.1).filterMap Collector.Operation.added? =
      history.filterMap fun e => e.2.noted? e.1 := by
  rw [List.filterMap_flatMap, List.filterMap_eq_flatMap_toList]
  exact List.flatMap_congr fun e _ => e.2.added?_operations e.1

variable {l}

/-- Without a limit the collector keeps the errors of all events. -/
theorem entries_accountAll (hunlimited : l.collector.tolerance.maxErrors = 0) :
    (l.accountAll history).collector.entries =
      l.collector.entries ++ history.filterMap fun e => e.2.noted? e.1 := by
  rw [collector_accountAll, Collector.entries_performAll hunlimited (isClear_operations history),
    added?_operations]

variable (l)

/-- With or without a limit the collector keeps no other errors than those of the events, and each
of them once. -/
theorem entries_accountAll_sublist :
    (l.accountAll history).collector.entries.Sublist
      (l.collector.entries ++ history.filterMap fun e => e.2.noted? e.1) := by
  rw [collector_accountAll, ← added?_operations]
  exact Collector.entries_performAll_sublist _ _

/-- What the entries of events were collected for. -/
theorem map_cause_noted :
    (history.filterMap fun e => e.2.noted? e.1).map Entry.cause =
      history.filterMap fun e => e.2.collected? := by
  rw [List.map_filterMap]
  apply List.filterMap_congr
  intro e _
  exact e.2.cause_noted? e.1

theorem causes_accountAll_sublist :
    (l.accountAll history).collector.causes.Sublist
      (l.collector.causes ++ history.filterMap fun e => e.2.collected?) := by
  have hentries := (l.entries_accountAll_sublist history).map Entry.cause
  rwa [List.map_append, map_cause_noted] at hentries

variable {l}

theorem causes_accountAll (hunlimited : l.collector.tolerance.maxErrors = 0) :
    (l.accountAll history).collector.causes =
      l.collector.causes ++ history.filterMap fun e => e.2.collected? := by
  rw [Collector.causes, entries_accountAll history hunlimited, List.map_append, map_cause_noted]
  rfl

variable (l)

theorem processed_accountAll :
    (l.accountAll history).collector.processed =
      l.collector.processed + (history.filterMap fun e => e.2.counted?).length := by
  have hcount : (history.flatMap fun e => e.2.operations e.1).countP Collector.Operation.isCount =
      (history.filterMap fun e => e.2.counted?).length := by
    induction history with
    | nil => rfl
    | cons e rest ih =>
      rw [List.flatMap_cons, List.countP_append, ih, e.2.isCount_operations]
      cases hcounted : e.2.counted? <;> simp [hcounted, Nat.add_comm]
  rw [collector_accountAll, Collector.processed_performAll _ (isClear_operations history), hcount]

@[simp]
theorem tolerance_accountAll :
    (l.accountAll history).collector.tolerance = l.collector.tolerance := by
  rw [collector_accountAll, Collector.tolerance_performAll]

end Ledger

end RecordFlow
