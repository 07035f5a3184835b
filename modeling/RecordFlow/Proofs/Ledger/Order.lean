import RecordFlow.Proofs.Collector.Kinds
import RecordFlow.Proofs.Collector.Threshold
import RecordFlow.Proofs.Ledger.Cancelling
import RecordFlow.Proofs.Ledger.Counting
import RecordFlow.Proofs.Ledger.Faults

/-!
# Order — accounts that do not depend on the order of the events

The accounts take the events of a run in the order in which they happen to arrive, so that an error
may come before or after the result it belongs to.  Without a limit and an enforced threshold any
two orders lead to ledgers that tell the same (`Ledger.Agrees`), and an enforced threshold is
breached in every order when the events as a whole exceed it.
-/

namespace RecordFlow

def Entry.untimed (e : Entry) : Entry := { e with time := default }

theorem Counts.addAll_of_perm {statuses statuses' : List Status} (h : statuses.Perm statuses')
    (c : Counts) : c.addAll statuses = c.addAll statuses' := by
  rw [addAll_eq, addAll_eq, h.length_eq, h.count_eq, h.count_eq, h.count_eq]

theorem Collector.cancelled_performAll_of_forgives {c : Collector}
    (hforgives : c.tolerance.Forgives) (ops : List Operation) :
    (c.performAll ops).cancelled = c.cancelled := by
  induction ops generalizing c with
  | nil => rfl
  | cons op ops ih =>
    have hnext : (c.perform op).1.tolerance.Forgives := by
      rw [tolerance_perform]
      exact hforgives
    have hsame : (c.perform op).1.cancelled = c.cancelled := by
      cases op with
      | add error record time => simp [perform, add_of_forgives hforgives]
      | addAs category error record time =>
        simp [perform, addAs, isFull_of_unlimited hforgives.unlimited]
      | countProcessed => simp [perform, countProcessed_of_forgives hforgives]
      | clear => rfl
    rw [performAll_cons, ih hnext, hsame]

theorem Event.namesCategory_operations (time : Moment) (e : Event) :
    ∀ op ∈ e.operations time, op.namesCategory = false := by
  unfold operations
  cases e.counted? <;> cases e.collected? <;> simp [Collector.Operation.namesCategory]

namespace Ledger

/-- Two ledgers tell the same, up to the order of the entries and the times at which they came. -/
structure Agrees (a b : Ledger) : Prop where
  summary : a.summary.counts = b.summary.counts
  overall : a.board.overall.counts = b.board.overall.counts
  sources : ∀ name, a.board.counts? name = b.board.counts? name
  processed : a.collector.processed = b.collector.processed
  entries : (a.collector.entries.map Entry.untimed).Perm (b.collector.entries.map Entry.untimed)
  categories : a.collector.counts.byCategory.Perm b.collector.counts.byCategory
  severities : a.collector.counts.bySeverity.Perm b.collector.counts.bySeverity
  retryable : a.collector.counts.retryable = b.collector.counts.retryable
  rate : a.collector.rate = b.collector.rate

/-- What is said of an entry does not hang on its time. -/
theorem agrees_of_entries {a b : Ledger} (hsummary : a.summary.counts = b.summary.counts)
    (hoverall : a.board.overall.counts = b.board.overall.counts)
    (hsources : ∀ name, a.board.counts? name = b.board.counts? name)
    (hprocessed : a.collector.processed = b.collector.processed)
    (hentries : (a.collector.entries.map Entry.untimed).Perm
      (b.collector.entries.map Entry.untimed)) :
    a.Agrees b := by
  have hkinds : ∀ {κ : Type} (kind : Entry → κ), (∀ e, kind e.untimed = kind e) →
      (a.collector.entries.map kind).Perm (b.collector.entries.map kind) := by
    intro κ kind hkind
    have hmapped := hentries.map kind
    simpa only [List.map_map, Function.comp_def, hkind] using hmapped
  have hretryable : ∀ c : Collector,
      c.counts.retryable = (c.entries.map Entry.retryable).count true := by
    intro c
    simp [Collector.counts, List.count, List.countP_map, Function.comp_def]
  have hcount : a.collector.count = b.collector.count := by
    rw [← Collector.length_entries, ← Collector.length_entries]
    simpa using hentries.length_eq
  refine ⟨hsummary, hoverall, hsources, hprocessed, hentries, ?_, ?_, ?_, ?_⟩
  · exact countKinds_perm (hkinds Entry.category fun _ => rfl)
  · exact countKinds_perm (hkinds Entry.severity fun _ => rfl)
  · rw [hretryable, hretryable, (hkinds Entry.retryable fun _ => rfl).count_eq]
  · rw [Collector.rate, Collector.rate, hprocessed, hcount]

/-! ## Two orders of the same events -/

/-- What events give regardless of their times, they give in every order. -/
theorem filterMap_perm_of_events {β : Type} {first second : List (Moment × Event)}
    (hperm : (first.map Prod.snd).Perm (second.map Prod.snd)) (pick : Event → Option β) :
    (first.filterMap fun e => pick e.2).Perm (second.filterMap fun e => pick e.2) := by
  have hpicked := hperm.filterMap pick
  rwa [List.filterMap_map, List.filterMap_map] at hpicked

theorem untimed_entries (history : List (Moment × Event)) :
    (history.filterMap fun e => e.2.noted? e.1).map Entry.untimed =
      history.filterMap fun e => e.2.noted? default := by
  rw [List.map_filterMap]
  apply List.filterMap_congr
  intro e _
  cases hcollected : e.2.collected? with
  | none => simp [Event.noted?, hcollected]
  | some cause =>
    simp only [Event.noted?, hcollected, Option.map_some]
    rfl

/-- Without a limit of errors the counters and the entries do not depend on the order. -/
theorem agrees_of_perm {l : Ledger} (hunlimited : l.collector.tolerance.maxErrors = 0)
    {first second : List (Moment × Event)}
    (hperm : (first.map Prod.snd).Perm (second.map Prod.snd)) :
    (l.accountAll first).Agrees (l.accountAll second) := by
  have hcounted := filterMap_perm_of_events hperm Event.counted?
  have hentries := filterMap_perm_of_events hperm (Event.noted? default)
  apply agrees_of_entries
  · rw [summary_accountAll, summary_accountAll, Summary.counts_addAll, Summary.counts_addAll]
    exact Counts.addAll_of_perm (hcounted.map _) _
  · rw [board_accountAll, board_accountAll, Board.counts_overall_recordAll,
      Board.counts_overall_recordAll]
    exact Counts.addAll_of_perm (hcounted.map _) _
  · -- the counters of a source are those of its own results
    intro name
    rw [board_accountAll, board_accountAll, Board.counts?_recordAll, Board.counts?_recordAll]
    refine congrArg (Option.map · _) ?_
    funext c
    exact Counts.addAll_of_perm ((hcounted.filter _).map _) c
  · rw [processed_accountAll, processed_accountAll, hcounted.length_eq]
  · -- two orders account for an error at different times
    rw [entries_accountAll _ hunlimited, entries_accountAll _ hunlimited, List.map_append,
      List.map_append, untimed_entries, untimed_entries]
    exact hentries.append_left _

/-- The lines that are taken are the same when none of them is lost. -/
theorem lines_perm_of_perm {l : Ledger} {first second : List (Moment × Event)}
    (hperm : (first.map Prod.snd).Perm (second.map Prod.snd))
    (hfirst : ¬ l.output.Loses (first.filterMap fun e => e.2.line?))
    (hsecond : ¬ l.output.Loses (second.filterMap fun e => e.2.line?)) :
    (l.accountAll first).output.lines.Perm (l.accountAll second).output.lines := by
  rw [output_accountAll, output_accountAll]
  cases hsink : l.output.sink with
  | none => rw [Output.writeAll_of_none hsink, Output.writeAll_of_none hsink]
  | some sink =>
    have hsome : l.output.sink.isSome = true := by simp [hsink]
    rw [(Output.lines_writeAll hsome hfirst).1, (Output.lines_writeAll hsome hsecond).1]
    exact (filterMap_perm_of_events hperm Event.line?).append_left _

/-! ## Stops and breaches -/

/-- Without a limit and an enforced threshold only a line that is lost stops anything. -/
theorem ongoing_accountAll {l : Ledger} (hforgives : l.collector.tolerance.Forgives)
    (hongoing : l.cancelled = false) (hcollecting : l.collector.cancelled = false)
    {history : List (Moment × Event)}
    (hkept : ¬ l.output.Loses (history.filterMap fun e => e.2.line?)) :
    (l.accountAll history).cancelled = false ∧
      (l.accountAll history).collector.cancelled = false := by
  constructor
  · have hcancelled := cancelled_accountAll_iff_of_unlimited hforgives.unlimited history
    simpa [hongoing, hkept] using hcancelled
  · rw [collector_accountAll, Collector.cancelled_performAll_of_forgives hforgives, hcollecting]

def totalRate (events : List Event) : Binary64 :=
  let errors := (events.filterMap Event.collected?).length
  let records := (events.filterMap Event.counted?).length
  if records = 0 then .zero else .ofNat errors / .ofNat records

/-- What the last event leaves is the rate of all, whichever event that is. -/
theorem rate_accountAll {l : Ledger} {tolerance : Tolerance}
    (hfresh : l.collector = .empty tolerance) (hunlimited : tolerance.maxErrors = 0)
    {events : List Event} {history : List (Moment × Event)}
    (horder : (history.map Prod.snd).Perm events) :
    (l.accountAll history).collector.rate = totalRate events := by
  have hcauses := causes_accountAll (l := l) history (by rw [hfresh]; exact hunlimited)
  have hcount : (l.accountAll history).collector.count =
      (events.filterMap Event.collected?).length := by
    have hcollected := (horder.filterMap Event.collected?).length_eq
    rw [← Collector.length_entries, ← List.length_map Entry.cause, ← Collector.causes, hcauses,
      hfresh, ← hcollected, List.filterMap_map]
    rfl
  have hprocessed : (l.accountAll history).collector.processed =
      (events.filterMap Event.counted?).length := by
    have hcounted := (horder.filterMap Event.counted?).length_eq
    rw [processed_accountAll, hfresh, ← hcounted, List.filterMap_map]
    exact Nat.zero_add _
  rw [Collector.rate, hcount, hprocessed, totalRate]

/-- An enforced threshold that the events exceed as a whole is breached in every order. -/
theorem breached_of_totalRate {l : Ledger} {tolerance : Tolerance}
    (hfresh : l.collector = .empty tolerance) (hunlimited : tolerance.maxErrors = 0)
    (henforced : tolerance.isEnforced = true) (hnumber : tolerance.threshold.isNaN = false)
    {events : List Event} (habove : Binary64.blt tolerance.threshold (totalRate events) = true)
    {history : List (Moment × Event)} (horder : (history.map Prod.snd).Perm events) :
    (l.accountAll history).collector.breached = true := by
  have hrate := rate_accountAll hfresh hunlimited horder
  have htolerance : (l.accountAll history).collector.tolerance = tolerance := by
    rw [tolerance_accountAll, hfresh]
    rfl
  rcases Bool.and_eq_true_iff.1 henforced with ⟨hon, hpositive⟩
  have hexceeded : (l.accountAll history).collector.isExceeded = true := by
    rw [Collector.isExceeded, htolerance, hrate, hpositive, habove]
    rfl
  -- no event names a category, so that every change of the rate is looked at
  have hplain : ∀ op ∈ history.flatMap fun e => e.2.operations e.1, op.namesCategory = false := by
    intro op hop
    rcases List.mem_flatMap.1 hop with ⟨e, _, he⟩
    exact e.2.namesCategory_operations e.1 op he
  rw [collector_accountAll, hfresh] at hexceeded ⊢
  exact Collector.breached_of_isExceeded hnumber hon hplain hexceeded

/-! ## Every order -/

/-- Whichever order events are accounted for in, at whichever times:

* without a limit and an enforced threshold the counters and the entries are the same, and so are
  the lines of the output unless the write of one fails,
* nothing is cancelled then, unless the write of a line fails,
* a threshold that is enforced is breached when the events as a whole exceed it. -/
theorem every_order_agrees (l : Ledger) (events : List Event) :
    (l.collector.tolerance.Forgives → ∀ first second : List (Moment × Event),
      (first.map Prod.snd).Perm events → (second.map Prod.snd).Perm events →
      (l.accountAll first).Agrees (l.accountAll second) ∧
      (¬ l.output.Loses (first.filterMap fun e => e.2.line?) →
        ¬ l.output.Loses (second.filterMap fun e => e.2.line?) →
        (l.accountAll first).output.lines.Perm (l.accountAll second).output.lines)) ∧
    (l.collector.tolerance.Forgives → l.cancelled = false → l.collector.cancelled = false →
      ∀ history : List (Moment × Event), (history.map Prod.snd).Perm events →
      ¬ l.output.Loses (history.filterMap fun e => e.2.line?) →
      (l.accountAll history).cancelled = false ∧
      (l.accountAll history).collector.cancelled = false) ∧
    (∀ tolerance : Tolerance, l.collector = .empty tolerance → tolerance.maxErrors = 0 →
      tolerance.isEnforced = true → tolerance.threshold.isNaN = false →
      Binary64.blt tolerance.threshold (totalRate events) = true →
      ∀ history : List (Moment × Event), (history.map Prod.snd).Perm events →
      (l.accountAll history).collector.breached = true) := by
  refine ⟨?_, ?_, ?_⟩
  · intro hforgives first second hfirst hsecond
    have hperm := hfirst.trans hsecond.symm
    exact ⟨agrees_of_perm hforgives.unlimited hperm, lines_perm_of_perm hperm⟩
  · intro hforgives hongoing hcollecting history _ hkept
    exact ongoing_accountAll hforgives hongoing hcollecting hkept
  · intro tolerance hfresh hunlimited henforced hnumber habove history horder
    exact breached_of_totalRate hfresh hunlimited henforced hnumber habove horder

/-! ## Where the order tells -/

/-- A ledger before its first event, with nothing on its board. -/
def fresh (tolerance : Tolerance) (sink : Sink) : Ledger :=
  ⟨.empty (.silent 0) default, .startedAt default, .empty tolerance, .ofSink sink, false⟩

def passed (field : String) : Event :=
  .result ⟨⟨2, "a.csv", [field], none⟩, .success (.array [.string field])⟩

def failedAhead : List Event :=
  let r : Record := ⟨3, "a.csv", ["y"], none⟩
  [.result ⟨r, .failed .timeout true⟩, .processing ⟨.timeout, some r⟩]

def atOnce (events : List Event) : List (Moment × Event) := events.map fun e => (default, e)

/-- An error that overtakes its result is told the same way, and so is its breach. -/
theorem every_order_agrees_overtaking :
    let forgiving := fresh ⟨0, .zero, false⟩ .reliable
    let strict := fresh ⟨0, .ofRatio false 1 2, true⟩ .reliable
    let inOrder := atOnce (passed "x" :: failedAhead ++ [.reading ⟨.timeout, none⟩])
    let overtaking := inOrder.reverse
    (forgiving.accountAll inOrder).Agrees (forgiving.accountAll overtaking) ∧
      (forgiving.accountAll inOrder).output.lines.Perm
        (forgiving.accountAll overtaking).output.lines ∧
      (forgiving.accountAll overtaking).cancelled = false ∧
      (strict.accountAll inOrder).collector.breached = true ∧
      (strict.accountAll overtaking).collector.breached = true := by
  intro forgiving strict inOrder overtaking
  let events := passed "x" :: failedAhead ++ [.reading ⟨.timeout, none⟩]
  have horder : inOrder.map Prod.snd = events := by
    simp [inOrder, atOnce, events, Function.comp_def]
  have hreversed : (overtaking.map Prod.snd).Perm events := by
    rw [List.map_reverse, horder]
    exact List.reverse_perm events
  have hkept : ∀ history : List (Moment × Event),
      ¬ forgiving.output.Loses (history.filterMap fun e => e.2.line?) := by
    intro history
    exact fun hloses => ((Output.loses_ofSink_iff _ _).1 hloses) fun _ _ _ _ => rfl
  have hforgives : forgiving.collector.tolerance.Forgives := ⟨rfl, .inl rfl⟩
  rcases every_order_agrees forgiving events with ⟨hsame, hongoing, _⟩
  rcases every_order_agrees strict events with ⟨_, _, hbreaches⟩
  have hbreached := hbreaches ⟨0, .ofRatio false 1 2, true⟩ rfl rfl (by decide +kernel)
    (by decide +kernel) (by decide +kernel)
  rcases hsame hforgives inOrder overtaking (.of_eq horder) hreversed with ⟨hagrees, hlines⟩
  exact ⟨hagrees, hlines (hkept _) (hkept _),
    (hongoing hforgives rfl rfl overtaking hreversed (hkept _)).1,
    hbreached inOrder (.of_eq horder), hbreached overtaking hreversed⟩

/-- An output that is full after one line keeps the line that comes first, and cancels the run; a
threshold of zero is not enforced, whatever the rate. -/
theorem order_tells_of_full_output :
    let small := fresh ⟨0, .zero, false⟩ (.withRoom 1 "disk full")
    let zero := fresh ⟨0, .zero, true⟩ .reliable
    let history := atOnce [passed "x", passed "y"]
    (small.accountAll history).output.lines = ["[\"x\"]"] ∧
      (small.accountAll history.reverse).output.lines = ["[\"y\"]"] ∧
      (small.accountAll history).cancelled = true ∧
      Binary64.blt .zero (totalRate failedAhead) = true ∧
      (zero.accountAll (atOnce failedAhead)).collector.breached = false := by
  decide +kernel

end Ledger
end RecordFlow
