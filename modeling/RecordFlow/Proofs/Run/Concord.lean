import RecordFlow.Proofs.Ledger.Concord
import RecordFlow.Proofs.Run.Accounting
import RecordFlow.Proofs.Run.Calls
import RecordFlow.Proofs.Source.Origins

/-!
# Concord — the counters of a run at any time

The board of a run has a place for every name that records can carry, and every record that the
accounts come across was emitted by a source of the run (`Flow.Trace.belongsTo`).  So the counters
agree after every event, whatever the processor does and whether or not the run is cancelled
(`Ledger.Concordant.accountAll`).
-/

namespace RecordFlow

/-! ## Strangers -/

/-- One for a record that carries none of some names. -/
def strangeness (names : List String) (r : Record) : Nat := if r.source ∈ names then 0 else 1

theorem strangeness_eq_zero_iff {names : List String} {r : Record} :
    strangeness names r = 0 ↔ r.source ∈ names := by
  unfold strangeness
  split <;> simp [*]

/-- Records and results weigh one if they are strange, and a call that breaks off takes its record
along. -/
def strangerBooks (names : List String) : Books Nat where
  record := strangeness names
  result r := strangeness names r.record
  error _ := 0
  counters _ _ := 0
  takes c :=
    match c.verdict with
    | .crashed => strangeness names c.record
    | _ => 0
  gives _ := 0

theorem strangerBooks_fair (names : List String) : (strangerBooks names).Fair where
  decides v r room decision hdecision := by
    cases v with
    | crashed => cases hdecision
    | _ => cases (Verdict.forwarded? _ r room) <;> simp [strangerBooks]
  crashes r := by simp [strangerBooks]
  counters _ _ := rfl

namespace Flow

variable {handler : Handler} {f g : Flow} {log : Log} {names : List String}

/-- What the sources of a run emit carries their names, cancelled or not. -/
theorem Trace.emitted_belongsTo (h : Trace handler f log g)
    (hstart : f.reading.BelongsTo names) :
    g.reading.BelongsTo names ∧ ∀ e ∈ log.emitted, e.2.BelongsTo names := by
  refine h.induction (P := fun log g => g.reading.BelongsTo names ∧
    ∀ e ∈ log.emitted, e.2.BelongsTo names) ⟨hstart, by simp [Log.empty]⟩ ?_
  rintro log g m e event h _ hturn ⟨hreading, hemitted⟩
  cases hturn with
  | @reads reading e i hadvance =>
    rcases hreading.advance hadvance with ⟨hkept, hnew⟩
    rw [close_eq, emitAny_eq]
    refine ⟨hkept, ?_⟩
    intro entry hentry
    rcases List.mem_append.1 hentry with hentry | hentry
    · exact hemitted entry hentry
    · rcases Option.map_eq_some_iff.1 (Option.mem_toList.1 hentry) with ⟨e', he', rfl⟩
      exact hnew e' he'
  | @givesUp reading i hquit =>
    rw [close_eq, Log.emitted_extend_none]
    exact ⟨hreading.quit hquit, hemitted⟩
  | _ =>
    rw [Log.emitted_extend_none]
    exact ⟨hreading, hemitted⟩

/-- Whatever the accounts count comes from a source: results go back to records that were emitted,
and so do the rejections of rows. -/
theorem Trace.belongsTo (h : Trace handler f log g) (hstart : f.reading.BelongsTo names)
    (hpool : f.pool.weight (strangerBooks names).toScale = 0) (hqueue : f.rejections.queue = []) :
    ∀ e ∈ log.accounted, ∀ r, e.2.counted? = some r → r.record.source ∈ names := by
  have hemitted := (h.emitted_belongsTo hstart).2
  rintro ⟨time, event⟩ hevent r hcounted
  cases event with
  | processing error => cases hcounted
  | reading error =>
    -- the error was emitted together with its record
    rcases error with ⟨error, _ | record⟩
    · cases hcounted
    · cases hcounted
      have hreading : (⟨error, some record⟩ : RecordError) ∈
          log.accounted.filterMap fun e => e.2.reading? :=
        List.mem_filterMap.2 ⟨_, hevent, rfl⟩
      have hrejection : (⟨error, some record⟩ : RecordError) ∈ log.rejections := by
        rw [h.rejections_eq hqueue]
        exact List.mem_append_left _ hreading
      rcases List.mem_filterMap.1 hrejection with ⟨⟨i, e⟩, he, hemission⟩
      apply hemitted _ he
      exact Source.Emission.about?_of_rejection? hemission
  | result result =>
    rcases hcounted with ⟨⟩
    -- no strange record was emitted, so that no strange result is accounted for
    have hnone : (log.records.map (strangerBooks names).record).sum = 0 := by
      apply List.sum_eq_zero
      intro n hn
      rcases List.mem_map.1 hn with ⟨record, hrecord, rfl⟩
      rcases List.mem_filterMap.1 hrecord with ⟨⟨i, e⟩, he, hemission⟩
      apply strangeness_eq_zero_iff.2
      apply hemitted _ he
      exact Source.Emission.about?_of_record? hemission
    rcases h.exists_called with ⟨calls, hcalled⟩
    rcases hcalled.dwindles (strangerBooks_fair names) hpool with ⟨lost, _, hbooked⟩
    have hgiven : (strangerBooks names).given calls = 0 := by simp [Books.given, strangerBooks]
    rw [hnone, hgiven] at hbooked
    have hone : strangeness names r.record ≤
        (log.accounted.map fun e => e.2.weight (strangerBooks names).toScale).sum :=
      List.le_sum_of_mem (List.mem_map.2 ⟨_, hevent, rfl⟩)
    apply strangeness_eq_zero_iff.1
    omega

end Flow

namespace Run

variable (options : RunOptions) (output : Output) (files : Files) (created start : Instant)

/-- All counters agree when a run starts. -/
theorem concordant_launch :
    ((ofOptions options output created).launch files start).ledger.Concordant
      (Source.names options.sources) := by
  rcases counts_launch options files output created start with ⟨hsummary, _, _⟩
  refine Ledger.concordant_of_fresh ?_ hsummary ?_
  · -- every name gets its place, and the places are started
    have hplaces := (Board.fresh_empty options.progress created.steady).foldl_addSource
      (Source.names options.sources) created.steady
    rw [List.nil_append] at hplaces
    rw [launch_eq_close, Flow.ledger_close]
    exact hplaces.start start.steady
  · rw [collector_launch]
    rfl

/-- To close the accounts changes no counter. -/
theorem concordant_closeLedger {names : List String} {l : Ledger} (h : l.Concordant names)
    (now : Instant) : (closeLedger l now).Concordant names :=
  h.congr rfl (Board.counts_stopAndPrintFinal _ _) (Summary.counts_finalize _ _) rfl

/-- The counters of a run over any list of sources tell one story, also when sources share a file
name or are named twice:

* after any events, as long as their records come from the sources of the run,
* hence at any time in a run, whatever the processor and the order of the moves, and when the run
  has been concluded. -/
theorem counters_agree :
    (∀ history : List (Moment × Event),
      (∀ e ∈ history, ∀ r, e.2.counted? = some r →
        r.record.source ∈ Source.names options.sources) →
      (((ofOptions options output created).launch files start).ledger.accountAll
        history).Concordant (Source.names options.sources)) ∧
    ∀ (handler : Handler) (f : Flow) (finish : Instant),
      Flow.Reaches handler ((ofOptions options output created).launch files start) f →
      f.ledger.Concordant (Source.names options.sources) ∧
        ((ofOptions options output created).conclude f finish).1.ledger.Concordant
          (Source.names options.sources) := by
  have hlaunch := concordant_launch options output files created start
  refine ⟨fun history hsources => hlaunch.accountAll hsources, ?_⟩
  intro handler f finish hreaches
  rcases hreaches.exists_trace with ⟨log, htrace⟩
  have hstart : ((ofOptions options output created).launch files start).reading.BelongsTo
      (Source.names options.sources) := by
    rw [reading_launch]
    exact Source.Reading.belongsTo_openAll files options.sources
  have hsources := htrace.belongsTo hstart (weight_launch options output files created start rfl)
    (rejections_launch options output files created start)
  have hafter := hlaunch.accountAll hsources
  rw [← htrace.ledger] at hafter
  exact ⟨hafter, concordant_closeLedger hafter finish⟩

/-- Three sources of which two share a file name, so that they go by their paths. -/
def namesakes : RunOptions :=
  { sampleOptions with sources := [⟨"x/a.csv"⟩, ⟨"y/a.csv"⟩, ⟨"b.csv"⟩] }

/-- A success, a rejected row and a skipped record, and two errors without a record. -/
def namesakeHistory : List (Moment × Event) :=
  [(default, .result ⟨⟨2, "x/a.csv", ["1"], none⟩, .success .null⟩),
   (default, .reading ⟨.timeout, some ⟨3, "y/a.csv", [], none⟩⟩),
   (default, .processing ⟨.timeout, none⟩),
   (default, .reading ⟨.emptyFile, none⟩),
   (default, .result ⟨⟨2, "b.csv", ["1"], none⟩, .skipped⟩)]

theorem counters_agree_namesakes :
    let f := (ofOptions namesakes .none default).launch sampleFiles default
    let l := f.ledger.accountAll namesakeHistory
    l.summary.counts = ⟨3, 1, 1, 1⟩ ∧ l.collector.processed = 3 ∧ l.board.summed = ⟨3, 1, 1, 1⟩ ∧
      ((ofOptions namesakes .none default).conclude f default).1.ledger.board.summed = .zero := by
  intro f l
  have hsources : ∀ e ∈ namesakeHistory, ∀ r, e.2.counted? = some r →
      r.record.source ∈ Source.names namesakes.sources := by
    intro e he r hr
    have hcarried : ∀ e ∈ namesakeHistory, ∀ r ∈ e.2.counted?,
        r.record.source ∈ ["x/a.csv", "y/a.csv", "b.csv"] := by
      simp [namesakeHistory, Event.counted?]
    have hnames : Source.names namesakes.sources = ["x/a.csv", "y/a.csv", "b.csv"] := by
      decide +kernel
    rw [hnames]
    exact hcarried e he r hr
  have hagrees := counters_agree namesakes .none sampleFiles default default
  have hconcord := hagrees.1 namesakeHistory hsources
  have hconcluded := (hagrees.2 validator f default (.refl f)).2
  have hcounts : l.summary.counts = ⟨3, 1, 1, 1⟩ := by decide +kernel
  refine ⟨hcounts, ?_, ?_, ?_⟩
  · exact hconcord.collector.trans (congrArg Counts.processed hcounts)
  · exact hconcord.sources.trans (hconcord.overall.trans hcounts)
  · exact hconcluded.sources.trans (hconcluded.overall.trans (by decide +kernel))

end Run
end RecordFlow
