import RecordFlow.Proofs.Ledger.Cancelling
import RecordFlow.Proofs.Ledger.Faults
import RecordFlow.Proofs.Progress.Lifecycle
import RecordFlow.Proofs.Run.Accounting
import RecordFlow.Proofs.Run.Followed
import RecordFlow.Proofs.Run.Shutdown

/-!
# Delivery — what is told of a failed output

A run ends well only when its output has every line and its end.  The first write that fails stops
the run and is what the run ends with; nothing is written after it, and the results that are still
on their way are counted all the same (`Run.Delivered`).  But where the first failure is that nobody
reads standard output, the process ends without a word, behind the lines that were read
(`Run.Reported`).

A run that is stopped comes to its end whatever the processor has done, so that the failure is told.
-/

namespace RecordFlow

/-! ## Lines of results -/

def Result.line? (r : Result) : Option String := r.payload?.map Json.render

/-- The results that were counted, in the order of the accounts. -/
def Log.results (log : Log) : List Result := log.accounted.filterMap fun e => e.2.counted?

def Log.lines (log : Log) : List String := log.results.filterMap Result.line?

theorem Log.filterMap_line? (log : Log) :
    (log.accounted.filterMap fun e => e.2.line?) = log.lines := by
  rw [lines, results, List.filterMap_filterMap]
  rfl

/-- The successes are the results with a line. -/
theorem Log.length_lines (log : Log) :
    log.lines.length = (log.results.map Result.status).count .success := by
  have hone : ∀ r : Result, r.line?.isSome = (r.status == .success) := by
    rintro ⟨r, decision⟩
    cases decision <;> rfl
  rw [lines, List.length_filterMap_eq_countP, List.count, List.countP_map]
  exact List.countP_congr fun r _ => by rw [hone]; rfl

namespace Run

/-- What the accounts of a run and its outcome tell of its output. -/
structure Delivered (sink : Sink) (log : Log) (r : Run) (outcome : Except FlowError Unit) :
    Prop where
  summary : r.ledger.summary.counts = Counts.zero.addAll (log.results.map Result.status)
  overall : r.ledger.board.overall.counts = Counts.zero.addAll (log.results.map Result.status)
  sources : ∀ name ∈ Source.names r.options.sources, r.ledger.board.counts? name =
    some (Counts.zero.addAll
      ((log.results.filter fun result => result.record.source = name).map Result.status))
  processed : r.ledger.collector.processed = log.results.length
  /-- A run that ends well has written one line for each success, in the order of the accounts. -/
  succeeds : outcome = .ok () →
    sink.Takes log.lines ∧ sink.flushFault? = none ∧ r.ledger.output.lines = log.lines ∧
      log.lines.length = r.ledger.summary.counts.success
  /-- If only the end fails, this is what the run ends with, breach or no breach. -/
  endFails : sink.Takes log.lines → ∀ fault, sink.flushFault? = some fault →
    outcome = .error (.io fault.message) ∧ r.ledger.output.lines = log.lines
  /-- If a write fails, the first that does is what the run ends with, and it stops the run. -/
  writeFails : ∀ before fault, sink.FailsBehind before fault log.lines →
    outcome = .error (.io fault.message) ∧ r.ledger.output.lines = before ∧
      r.scope.cancelled = true

/-- What the ending of a run tells of its output: the process ends just if the first failure is that
nobody reads the lines, and then behind the lines that were taken.  A run breaks off only over its
progress, while that falls short of a total that was expected. -/
def Reported (options : RunOptions) (sink : Sink) (log : Log) : Ending → Prop
  | .returned r outcome =>
    (∀ before, ¬ sink.BreaksBehind before log.lines) ∧ Delivered sink log r outcome
  | .exited status lines => status = .brokenPipe ∧ sink.BreaksBehind lines log.lines
  | .panicked _ _ =>
    (∀ before, ¬ sink.BreaksBehind before log.lines) ∧
      0 < log.results.length ∧ log.results.length < options.progress.total

theorem outcome_of_fault {l : Ledger} {fault : Sink.Fault} (hfault : l.output.fault = some fault) :
    outcome l = .error (.io fault.message) := by
  rw [outcome, hfault]

section Traces

variable {handler : Handler} {options : RunOptions} {sink : Sink} {files : Files}
  {created start : Instant} {log : Log} {f : Flow}

/-! ## The accounts -/

theorem output_of_trace
    (htrace : Flow.Trace handler
      ((ofOptions options (.ofSink sink) created).launch files start) log f) :
    f.ledger.output = (Output.ofSink sink).writeAll log.lines := by
  rw [htrace.ledger, Ledger.output_accountAll, output_launch, log.filterMap_line?]

/-- The counters are those of the results, whether or not the output failed. -/
theorem counts_of_trace
    (htrace : Flow.Trace handler
      ((ofOptions options (.ofSink sink) created).launch files start) log f) :
    f.ledger.summary.counts = Counts.zero.addAll (log.results.map Result.status) ∧
    f.ledger.board.overall.counts = Counts.zero.addAll (log.results.map Result.status) ∧
    (∀ name ∈ Source.names options.sources, f.ledger.board.counts? name =
      some (Counts.zero.addAll
        ((log.results.filter fun r => r.record.source = name).map Result.status))) ∧
    f.ledger.collector.processed = log.results.length := by
  have hledger := htrace.ledger
  rcases counts_launch options files (.ofSink sink) created start with
    ⟨hsummary, hoverall, hsources⟩
  refine ⟨?_, ?_, ?_, ?_⟩
  · rw [hledger, Ledger.summary_accountAll, Summary.counts_addAll, hsummary, Log.results]
  · rw [hledger, Ledger.board_accountAll, Board.counts_overall_recordAll, hoverall, Log.results]
  · intro name hname
    rw [hledger, Ledger.board_accountAll, Board.counts?_recordAll, hsources name hname,
      Option.map_some, Log.results]
  · rw [hledger, Ledger.processed_accountAll, collector_launch, Log.results]
    exact Nat.zero_add _

/-- The total that the progress of a run expects stays what it is. -/
theorem total_of_trace
    (htrace : Flow.Trace handler
      ((ofOptions options (.ofSink sink) created).launch files start) log f) :
    f.ledger.board.overall.total = options.progress.total := by
  rw [htrace.ledger, Ledger.board_accountAll, Board.total_overall_recordAll, launch_eq_close,
    Flow.ledger_close, prepared, Board.total_overall_start, ofOptions,
    Board.overall_foldl_addSource]
  rfl

/-! ## The scope -/

/-- The scope of a run is cancelled when its accounts have cancelled the run. -/
theorem cancelled_of_ledger
    (htrace : Flow.Trace handler
      ((ofOptions options (.ofSink sink) created).launch files start) log f) :
    f.ledger.cancelled = true → f.pool.scope.cancelled = true :=
  htrace.heeds (heeds_launch options (.ofSink sink) files created start)

/-- A run that lost a line has been stopped. -/
theorem cancelled_of_failsBehind
    (htrace : Flow.Trace handler
      ((ofOptions options (.ofSink sink) created).launch files start) log f)
    {before : List String} {fault : Sink.Fault} (hfails : sink.FailsBehind before fault log.lines) :
    f.pool.scope.cancelled = true := by
  have hloses : ((ofOptions options (.ofSink sink) created).launch files start).ledger.output.Loses
      (log.accounted.filterMap fun e => e.2.line?) := by
    rw [output_launch, log.filterMap_line?, Output.loses_ofSink_iff]
    exact hfails.not_takes
  have hledger := Ledger.cancelled_of_loses hloses
  rw [← htrace.ledger] at hledger
  exact cancelled_of_ledger htrace hledger

/-! ## The outcome -/

theorem delivered_conclude
    (htrace : Flow.Trace handler
      ((ofOptions options (.ofSink sink) created).launch files start) log f) (finish : Instant) :
    Delivered sink log
      ((ofOptions options (.ofSink sink) created).conclude f finish).1
      ((ofOptions options (.ofSink sink) created).conclude f finish).2 := by
  have houtput := output_of_trace htrace
  have hclosed : (closeLedger f.ledger finish).output = f.ledger.output.flush := rfl
  rcases counts_of_trace htrace with ⟨hsummary, hoverall, hsources, hprocessed⟩
  have hcounts : (closeLedger f.ledger finish).summary.counts =
      Counts.zero.addAll (log.results.map Result.status) :=
    (Summary.counts_finalize _ _).trans hsummary
  -- the output is the same in the accounts that the run keeps and in those its outcome is read off
  have hsucceeds : sink.Takes log.lines → (closeLedger f.ledger finish).output =
      ⟨some sink, log.lines.reverse, sink.flushFault?⟩ := by
    intro htakes
    rw [hclosed, houtput, Output.flush_writeAll_of_takes htakes]
  have hfailed : ∀ before fault, sink.FailsBehind before fault log.lines →
      (closeLedger f.ledger finish).output = ⟨none, before.reverse, some fault⟩ := by
    intro before fault hfails
    rw [hclosed, houtput, Output.flush_writeAll_of_failsBehind hfails]
  refine ⟨hcounts, (Board.counts_stopAndPrintFinal _ _).trans hoverall, hsources, hprocessed,
    ?_, ?_, ?_⟩
  · -- a run that ends well has kept no fault, so that it cannot have lost a line
    intro hok
    have hfaultless := ((outcome_eq_ok_iff _).1 hok).2
    rcases sink.takes_or_failsBehind log.lines with htakes | ⟨before, fault, hfails⟩
    · rw [hsucceeds htakes] at hfaultless
      have hlines : (closeLedger f.ledger finish).output.lines = log.lines := by
        rw [hsucceeds htakes]
        exact List.reverse_reverse _
      have hlength : log.lines.length = (closeLedger f.ledger finish).summary.counts.success := by
        rw [hcounts, log.length_lines, Counts.addAll_eq]
        exact (Nat.zero_add _).symm
      exact ⟨htakes, hfaultless, hlines, hlength⟩
    · rw [hfailed before fault hfails] at hfaultless
      cases hfaultless
  · -- only the end of the output fails
    intro htakes fault hend
    have hafter := hsucceeds htakes
    refine ⟨outcome_of_fault (by rw [hafter, hend]), ?_⟩
    calc (closeLedger f.ledger finish).output.lines
        = Output.lines ⟨some sink, log.lines.reverse, sink.flushFault?⟩ := by rw [hafter]
      _ = log.lines := List.reverse_reverse _
  · -- a write fails, and its fault is not overwritten at the end
    intro before fault hfails
    have hafter := hfailed before fault hfails
    refine ⟨outcome_of_fault (by rw [hafter]), ?_, cancelled_of_failsBehind htrace hfails⟩
    calc (closeLedger f.ledger finish).output.lines
        = Output.lines ⟨none, before.reverse, some fault⟩ := by rw [hafter]
      _ = before := List.reverse_reverse _

theorem reported_finish
    (htrace : Flow.Trace handler
      ((ofOptions options (.ofSink sink) created).launch files start) log f) (finish : Instant) :
    Reported options sink log ((ofOptions options (.ofSink sink) created).finish f finish) := by
  have hclosed : (closeLedger f.ledger finish).output =
      ((Output.ofSink sink).writeAll log.lines).flush := by
    rw [← output_of_trace htrace]
    rfl
  have hbreaks := fun before => Output.breaks_flush_writeAll_iff sink before log.lines
  rw [← hclosed] at hbreaks
  unfold Run.finish
  simp only
  by_cases hpipe : (closeLedger f.ledger finish).output.fault = some .brokenPipe
  · rw [if_pos hpipe]
    exact ⟨rfl, (hbreaks _).1 ⟨hpipe, rfl⟩⟩
  · rw [if_neg hpipe]
    have hnever : ∀ before, ¬ sink.BreaksBehind before log.lines :=
      fun before h => hpipe ((hbreaks before).2 h).1
    cases hpanics : (f.ledger.board.callStopAndPrintFinal finish.steady).2 with
    | ok _ => exact ⟨hnever, delivered_conclude htrace finish⟩
    | error text =>
      have hway := Tracker.isUnderWay_of_panics (t := f.ledger.board.overall) hpanics
      rw [total_of_trace htrace, (counts_of_trace htrace).2.1, Counts.addAll_eq] at hway
      simp only [Counts.zero, Nat.zero_add, List.length_map] at hway
      exact ⟨hnever, hway⟩

/-- Without an expected total a run returns unless its output breaks. -/
theorem exists_returned
    (htrace : Flow.Trace handler
      ((ofOptions options (.ofSink sink) created).launch files start) log f)
    (hkept : ∀ before, ¬ sink.BreaksBehind before log.lines) (htotal : options.progress.total = 0)
    (finish : Instant) :
    ∃ r outcome, (ofOptions options (.ofSink sink) created).finish f finish =
      .returned r outcome := by
  have hreported := reported_finish htrace finish
  cases hending : (ofOptions options (.ofSink sink) created).finish f finish with
  | returned r outcome => exact ⟨r, outcome, rfl⟩
  | exited status lines =>
    rw [hending] at hreported
    exact absurd hreported.2 (hkept lines)
  | panicked text l =>
    rw [hending] at hreported
    have hshort := hreported.2.2
    rw [htotal] at hshort
    exact absurd hshort (Nat.not_lt_zero _)

/-- A run with an output, whatever its processor does and in whichever order its moves are made:

* at every point its ending tells what has become of the output,
* once a write has failed it goes on until it has ended, which it does, since every step lessens the
  work that is left.

In particular this holds for the run that the schedule makes, which has ended if a write failed. -/
theorem failed_output_is_reported (handler : Handler) (options : RunOptions) (sink : Sink)
    (files : Files) (created start finish : Instant) :
    (∀ log f, Flow.Trace handler
        ((ofOptions options (.ofSink sink) created).launch files start) log f →
      Reported options sink log ((ofOptions options (.ofSink sink) created).finish f finish) ∧
      (∀ before fault, sink.FailsBehind before fault log.lines → f.isEnded = false →
        ∃ move, move ≠ Flow.Move.stop ∧ (f.step? handler move).isSome = true) ∧
      ∀ move g, move ≠ Flow.Move.stop → f.step? handler move = some g → g.work < f.work) ∧
    ∃ log f, Flow.Trace handler
        ((ofOptions options (.ofSink sink) created).launch files start) log f ∧
      (ofOptions options (.ofSink sink) created).perform handler files start finish =
        (ofOptions options (.ofSink sink) created).finish f finish ∧
      (∀ before fault, sink.FailsBehind before fault log.lines → f.isEnded = true) := by
  have hwired := wired_launch options (.ofSink sink) files created start
  constructor
  · intro log f htrace
    refine ⟨reported_finish htrace finish, ?_, ?_⟩
    · -- the write that failed has cancelled the scope, under which nothing waits for ever
      intro before fault hfails hended
      have hcancelled := cancelled_of_failsBehind htrace hfails
      rcases (htrace.wired hwired).exists_move_of_cancelled handler start.wall hcancelled hended
        with ⟨move, hmove, hstep⟩
      exact ⟨move, Flow.ne_stop_of_mem_candidates hmove, hstep⟩
    · intro move g hmove hstep
      exact (Flow.turns_of_step? hstep).work_lt hmove
  · -- the schedule is one of the orders of moves
    have htrace := (Course.called_settled handler start.wall
      ((ofOptions options (.ofSink sink) created).launch files start)).trace
    refine ⟨_, _, htrace, perform_eq_finish .., ?_⟩
    intro before fault hfails
    exact (htrace.wired hwired).settle_ended_of_cancelled (cancelled_of_failsBehind htrace hfails)

end Traces

/-- A run that is stopped before it begins is one that is stopped at once. -/
theorem step?_stop_launch (handler : Handler) (options : RunOptions) (output : Output)
    (files : Files) (created start : Instant) :
    ((ofOptions options output created).launch files start).step? handler .stop =
      some ((ofOptions options output created).stop.launch files start) := by
  have hstopped : (ofOptions options output created).stop.launch files start =
      { prepared options output files created start with
        pool := (prepared options output files created start).pool.cancel }.close := rfl
  rw [hstopped, launch_eq_close, Flow.close_eq, Flow.close_eq]
  rfl

def sampleCourse (sink : Sink) : Course :=
  .settled validator (default : Instant).wall
    ((ofOptions sampleOptions (.ofSink sink) default).launch sampleFiles default)

theorem trace_sampleCourse (sink : Sink) : Flow.Trace validator
    ((ofOptions sampleOptions (.ofSink sink) default).launch sampleFiles default)
    (sampleCourse sink).log (sampleCourse sink).flow := by
  have hcalled := Course.called_settled validator (default : Instant).wall
    ((ofOptions sampleOptions (.ofSink sink) default).launch sampleFiles default)
  rw [← Course.flow_settled] at hcalled
  exact hcalled.trace

theorem perform_sampleCourse (sink : Sink) :
    (ofOptions sampleOptions (.ofSink sink) default).perform validator sampleFiles default default =
      (ofOptions sampleOptions (.ofSink sink) default).finish (sampleCourse sink).flow default := by
  rw [perform_eq_finish, sampleCourse, Course.flow_settled]

def firstLine : String := "\x7b\"i\":\"1\",\"n\":\"x\"\x7d"
def secondLine : String := "\x7b\"i\":\"3\",\"n\":\"y\"\x7d"

def oneLine : Sink := .withRoom 1 "disk full"

/-- The second line of the sample run finds no room; both successes are counted. -/
theorem failed_output_is_reported_oneLine :
    ∃ r, (ofOptions sampleOptions (.ofSink oneLine) default).perform validator sampleFiles default
        default = .returned r (.error (.io "Output write failed: disk full")) ∧
      r.ledger.output.lines = [firstLine] ∧
      r.scope.cancelled = true ∧ r.ledger.summary.counts.success = 2 := by
  have hlines : (sampleCourse oneLine).log.lines = [firstLine, secondLine] := by decide +kernel
  have hfails : oneLine.FailsBehind [firstLine] (.refused "Output write failed: disk full")
      (sampleCourse oneLine).log.lines := by
    rw [hlines]
    exact Sink.failsBehind_first rfl rfl
  have hsuccesses : (Counts.zero.addAll ((sampleCourse oneLine).log.results.map
      Result.status)).success = 2 := by
    decide +kernel
  -- a sink that is full is no broken pipe
  have hkept : ∀ before, ¬ oneLine.BreaksBehind before (sampleCourse oneLine).log.lines := by
    rintro before (hbreaks | ⟨_, hend, _⟩)
    · have hfault : (if before.reverse.length < 1 then none
          else some (Sink.Fault.refused "Output write failed: disk full")) = some .brokenPipe :=
        hbreaks.fails
      split at hfault <;> cases hfault
    · cases hend
  rcases exists_returned (trace_sampleCourse oneLine) hkept rfl default with ⟨r, outcome, hending⟩
  have hreported := ((failed_output_is_reported validator sampleOptions oneLine sampleFiles default
    default default).1 _ _ (trace_sampleCourse oneLine)).1
  rw [hending] at hreported
  rcases hreported.2.writeFails _ _ hfails with ⟨rfl, hwritten, hcancelled⟩
  refine ⟨r, (perform_sampleCourse oneLine).trans hending, hwritten, hcancelled, ?_⟩
  rw [hreported.2.summary]
  exact hsuccesses

/-- A run that has returned is not made again. -/
theorem perform_of_finish {r s : Run} {f : Flow} {now : Instant} {outcome : Except FlowError Unit}
    (hreturned : r.finish f now = .returned s outcome) (handler : Handler) (files : Files)
    (start finish : Instant) :
    s.perform handler files start finish = .returned s (.error .alreadyRan) := by
  have hstage : s.stage = .finalized := by
    unfold Run.finish at hreturned
    simp only at hreturned
    split at hreturned
    · cases hreturned
    · split at hreturned <;> cases hreturned
      rfl
  rw [perform, if_neg (by rw [hstage]; decide)]

def neverFlushed : Sink := .unflushable "disk full"

/-- A write or an end that fails is not always what a run returns.  If its reader leaves standard
output behind the first line of the sample run, the process ends over the second one without a word.
And a run that is made once more answers that it has been made. -/
theorem failures_are_not_always_returned :
    (¬ ∀ sink, (∃ before fault, sink.FailsBehind before fault (sampleCourse sink).log.lines) →
      ∃ r text, (ofOptions sampleOptions (.ofSink sink) default).perform validator sampleFiles
        default default = .returned r (.error (.io text))) ∧
    ¬ ∀ (sink : Sink) (fault : Sink.Fault), sink.flushFault? = some fault → ∀ r outcome,
      (ofOptions sampleOptions (.ofSink sink) default).perform validator sampleFiles default
        default = .returned r outcome →
      ∃ s text, r.perform validator sampleFiles default default =
        .returned s (.error (.io text)) := by
  constructor
  · intro hreturned
    have hlines : (sampleCourse (.pipe 1)).log.lines = [firstLine, secondLine] := by
      decide +kernel
    have hfails : (Sink.pipe 1).FailsBehind [firstLine] .brokenPipe
        (sampleCourse (.pipe 1)).log.lines := by
      rw [hlines]
      exact Sink.failsBehind_first rfl rfl
    rcases hreturned (.pipe 1) ⟨_, _, hfails⟩ with ⟨r, text, hending⟩
    have hreported := reported_finish (trace_sampleCourse (.pipe 1)) default
    rw [← perform_sampleCourse, hending] at hreported
    exact hreported.1 _ (.inl hfails)
  · intro hreturned
    have hkept : ∀ before,
        ¬ neverFlushed.BreaksBehind before (sampleCourse neverFlushed).log.lines := by
      rintro before (hbreaks | ⟨_, hend, _⟩)
      · cases hbreaks.fails
      · cases hend
    rcases exists_returned (trace_sampleCourse neverFlushed) hkept rfl default with
      ⟨r, outcome, hending⟩
    have hfirst := (perform_sampleCourse neverFlushed).trans hending
    rcases hreturned neverFlushed _ rfl r outcome hfirst with ⟨s, text, hagain⟩
    have hmade := perform_of_finish hending validator sampleFiles default default
    cases hmade.symm.trans hagain

end Run
end RecordFlow
