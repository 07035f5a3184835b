import RecordFlow.Proofs.Ledger.Counting
import RecordFlow.Proofs.Ledger.Entries
import RecordFlow.Proofs.Run.Breach
import RecordFlow.Proofs.Run.Validation

/-!
# Accounting — what a run of the validator comes to

When nothing stops a run of the validator, each row of a source is counted once: as a success if it
is passed on, and as a failure if it is rejected.  The summary, the tracker for all, the trackers of
the sources, the collector and the output agree on this (`Run.Accounted`), whatever the order in
which the parts of the run took their steps.
-/

namespace RecordFlow

/-! ## Rows of a run -/

/-- The places of the sources that carry a name. -/
def Source.placesOf (paths : List Path) (name : String) : List Nat :=
  (List.range paths.length).filter fun i => (names paths)[i]? = some name

namespace Run

section Rows

variable (options : RunOptions) (files : Files)

def opened : List (Except FlowError Source.Opened) :=
  Source.openAll options.reading files options.sources

def allPlaces : List Nat := List.range options.sources.length

/-- The records that the sources at some places pass on. -/
def passedRows (places : List Nat) : List Record :=
  places.flatMap (Source.passedAt options.reading (opened options files))

/-- The records that the sources at some places reject, each with its error. -/
def rejectedRows (places : List Nat) : List RecordError :=
  places.flatMap (Source.rejectedAt options.reading (opened options files))

def failures : List FlowError :=
  (allPlaces options).filterMap (Source.failureAt? options.reading (opened options files))

def rowCounts (places : List Nat) : Counts :=
  .ofRows (passedRows options files places).length (rejectedRows options files places).length

/-- A run has gone well, and its accounts are those of the rows of its sources. -/
structure Accounted (sink : Option Sink) (r : Run) (outcome : Except FlowError Unit) : Prop where
  succeeds : outcome = .ok ()
  summary : r.ledger.summary.counts = rowCounts options files (allPlaces options)
  overall : r.ledger.board.overall.counts = rowCounts options files (allPlaces options)
  /-- Each source on the board counts the rows of the sources that carry its name. -/
  sources : ∀ name ∈ Source.names options.sources,
    r.ledger.board.counts? name =
      some (rowCounts options files (Source.placesOf options.sources name))
  /-- One entry for every rejected row, and one for every error that a source ended with. -/
  causes : r.ledger.collector.causes.Perm
    (rejectedRows options files (allPlaces options) ++
      (failures options files).map (⟨·, none⟩))
  /-- One line for every row that was passed on. -/
  lines : sink.isSome = true → r.ledger.output.lines.Perm
    ((passedRows options files (allPlaces options)).map fun row => row.toJson.render)
  /-- The validator failed no record. -/
  workers : ∀ w ∈ r.workers, w.failed = 0

end Rows

/-! ## Events of an ended run -/

theorem filterMap_accounted {β : Type} (log : Log) (pick : Event → Option β) :
    (log.accounted.filterMap fun e => pick e.2) =
      (log.accounted.map Prod.snd).filterMap pick := by
  rw [List.filterMap_map]
  rfl

/-- Records that pass add a success each. -/
theorem filterMap_status_validated {picks : Record → Bool} {records : List Record}
    (hvalid : ∀ r ∈ records, r.isValid = true) :
    (records.map fun r => Event.result (validated r)).filterMap (Event.status? picks) =
      List.replicate (records.filter picks).length .success := by
  induction records with
  | nil => rfl
  | cons r rest ih =>
    have hrest := ih fun r hr => hvalid r (List.mem_cons_of_mem _ hr)
    have hstatus : (Event.result (validated r)).status? picks =
        if picks r then some .success else none := by
      rw [validated_of_isValid (hvalid r List.mem_cons_self)]
      cases hpicks : picks r <;>
        simp [Event.status?, Event.counted?, Option.filter, hpicks, Result.status]
    rw [List.map_cons]
    cases hpicks : picks r with
    | true =>
      rw [hpicks] at hstatus
      rw [List.filterMap_cons_some hstatus, hrest, List.filter_cons_of_pos hpicks]
      rfl
    | false =>
      rw [hpicks] at hstatus
      rw [List.filterMap_cons_none hstatus, hrest, List.filter_cons_of_neg (by simp [hpicks])]

/-- Errors of sources add a failure each, if they come with a record. -/
theorem filterMap_status_reading (picks : Record → Bool) (errors : List RecordError) :
    (errors.map Event.reading).filterMap (Event.status? picks) =
      List.replicate (errors.filter fun e => e.record.any picks).length .failed := by
  induction errors with
  | nil => rfl
  | cons e rest ih =>
    have hstatus : (Event.reading e).status? picks =
        if e.record.any picks then some .failed else none := by
      rcases e with ⟨error, _ | r⟩
      · rfl
      · cases hpicks : picks r <;>
          simp [Event.status?, Event.counted?, Option.filter, hpicks, Result.status]
    rw [List.map_cons]
    cases hpicks : e.record.any picks with
    | true =>
      rw [hpicks] at hstatus
      rw [List.filterMap_cons_some hstatus, ih, List.filter_cons_of_pos (by simpa using hpicks)]
      rfl
    | false =>
      rw [hpicks] at hstatus
      rw [List.filterMap_cons_none hstatus, ih, List.filter_cons_of_neg (by simp [hpicks])]

section Ended

variable {options : RunOptions} {files : Files} {output : Output} {created start : Instant}
  {log : Log} {f : Flow}

/-- What an undisturbed run has emitted and accounted for when it has ended. -/
structure Emptied (options : RunOptions) (files : Files) (log : Log) : Prop where
  records : log.records.Perm (passedRows options files (allPlaces options))
  rejections : log.rejections.Perm
    (rejectedRows options files (allPlaces options) ++
      (failures options files).map (⟨·, none⟩))
  events : (log.accounted.map Prod.snd).Perm
    (log.rejections.map .reading ++ log.records.map fun r => .result (validated r))

theorem Emptied.isValid (h : Emptied options files log) : ∀ r ∈ log.records, r.isValid = true := by
  intro r hr
  rcases List.mem_flatMap.1 (h.records.mem_iff.1 hr) with ⟨i, _, hi⟩
  exact Source.isValid_of_mem_passedAt hi

/-- Counters that go by the records of some places count the rows of these places. -/
theorem Emptied.counts (h : Emptied options files log) (picks : Record → Bool)
    (places : Nat → Bool)
    (hpassed : ∀ i, ∀ r ∈ Source.passedAt options.reading (opened options files) i,
      picks r = places i)
    (hrejected : ∀ i, ∀ e ∈ Source.rejectedAt options.reading (opened options files) i,
      e.record.any picks = places i) :
    Counts.zero.addAll
      (((log.accounted.filterMap fun e => e.2.counted?).filter fun r => picks r.record).map
        Result.status) =
      rowCounts options files ((allPlaces options).filter places) := by
  have hpassedRows : (log.records.filter picks).length =
      (passedRows options files ((allPlaces options).filter places)).length := by
    rw [(h.records.filter _).length_eq, passedRows, filter_flatMap_of fun i _ => hpassed i]
    rfl
  have hrejectedRows : (log.rejections.filter fun e => e.record.any picks).length =
      (rejectedRows options files ((allPlaces options).filter places)).length := by
    -- an error that ends a source comes without a record
    have hfailures : ((failures options files).map fun e => (⟨e, none⟩ : RecordError)).filter
        (fun e => e.record.any picks) = [] := by simp
    rw [(h.rejections.filter _).length_eq, List.filter_append, hfailures, List.append_nil,
      rejectedRows, filter_flatMap_of fun i _ => hrejected i]
    rfl
  rw [filterMap_accounted log Event.counted?, statuses_counted]
  refine Counts.addAll_zero_of_perm ((h.events.filterMap _).trans ?_)
  rw [List.filterMap_append, filterMap_status_reading, filterMap_status_validated h.isValid,
    hpassedRows, hrejectedRows]
  exact List.perm_append_comm

theorem Emptied.counts_all (h : Emptied options files log) :
    Counts.zero.addAll ((log.accounted.filterMap fun e => e.2.counted?).map Result.status) =
      rowCounts options files (allPlaces options) := by
  have hcounts := h.counts (fun _ => true) (fun _ => true) (fun _ _ _ => rfl) ?_
  · rwa [List.filter_true, List.filter_true] at hcounts
  · intro i e he
    rcases Source.source_of_mem_rejectedAt he with ⟨r, hrecord, _⟩
    rw [hrecord]
    rfl

/-- The counters of a name count the rows of the sources that carry it. -/
theorem Emptied.counts_of_name (h : Emptied options files log) (name : String) :
    Counts.zero.addAll
      (((log.accounted.filterMap fun e => e.2.counted?).filter fun r =>
        r.record.source = name).map Result.status) =
      rowCounts options files (Source.placesOf options.sources name) := by
  have hcarries : ∀ (i : Nat) (r : Record),
      (Source.names options.sources)[i]? = some r.source →
        decide (r.source = name) = decide ((Source.names options.sources)[i]? = some name) := by
    intro i r hsource
    simp [hsource]
  refine h.counts (fun r => r.source = name)
    (fun i => (Source.names options.sources)[i]? = some name) ?_ ?_
  · intro i r hr
    exact hcarries i r (Source.source_of_mem_passedAt hr)
  · intro i e he
    rcases Source.source_of_mem_rejectedAt he with ⟨r, hrecord, hsource⟩
    rw [hrecord]
    exact hcarries i r hsource

/-- The records that passed are written as lines, and nothing else is. -/
theorem Emptied.lines (h : Emptied options files log) :
    (log.accounted.filterMap fun e => e.2.line?).Perm
      ((passedRows options files (allPlaces options)).map fun row => row.toJson.render) := by
  have hreadings : (log.rejections.map Event.reading).filterMap Event.line? = [] := by
    rw [List.filterMap_map, List.filterMap_eq_nil_iff]
    rintro ⟨error, _ | r⟩ _ <;> rfl
  have hresults : (log.records.map fun r => Event.result (validated r)).filterMap Event.line? =
      log.records.map fun r => r.toJson.render := by
    rw [List.filterMap_map, ← List.filterMap_eq_map]
    refine List.filterMap_congr fun r hr => ?_
    have hvalidated := validated_of_isValid (h.isValid r hr)
    simp only [Function.comp_apply, hvalidated]
    rfl
  rw [filterMap_accounted log Event.line?]
  refine (h.events.filterMap _).trans ?_
  rw [List.filterMap_append, hreadings, hresults, List.nil_append]
  exact h.records.map _

/-- The errors of the sources are collected, and nothing else is. -/
theorem Emptied.causes (h : Emptied options files log) :
    (log.accounted.filterMap fun e => e.2.collected?).Perm
      (rejectedRows options files (allPlaces options) ++
        (failures options files).map (⟨·, none⟩)) := by
  have hreadings : (log.rejections.map Event.reading).filterMap Event.collected? =
      log.rejections := by
    rw [List.filterMap_map]
    exact List.filterMap_some
  have hresults : (log.records.map fun r => Event.result (validated r)).filterMap
      Event.collected? = [] := by
    rw [List.filterMap_map, List.filterMap_eq_nil_iff]
    intro r hr
    have hvalidated := validated_of_isValid (h.isValid r hr)
    simp only [Function.comp_apply, hvalidated]
    rfl
  rw [filterMap_accounted log Event.collected?]
  refine (h.events.filterMap _).trans ?_
  rw [List.filterMap_append, hreadings, hresults, List.append_nil]
  exact h.rejections

/-- What the sources have emitted when a flow has ended without a cancellation, if the processor
never breaks off. -/
theorem emitted_of_trace {handler : Handler}
    (hdecides : ∀ n r, (handler.answer n false r).verdict ≠ .crashed)
    (htrace : Flow.Trace handler ((ofOptions options output created).launch files start) log f)
    (hongoing : f.pool.scope.cancelled = false) (hended : f.isEnded = true) :
    log.records.Perm (passedRows options files (allPlaces options)) ∧
      log.rejections.Perm
        (rejectedRows options files (allPlaces options) ++
          (failures options files).map (⟨·, none⟩)) := by
  have hwired := wired_launch options output files created start
  have hundisturbed := htrace.undisturbed hdecides hwired
    (undisturbed_launch options output files created start) hongoing
  have hfinished := ((htrace.wired hwired).isEnded_iff.1 hended).1
  have hcompletes : Source.Session.Completes options.reading (opened options files)
      ⟨f.reading, .ongoing, true, log.emitted⟩ :=
    ⟨hundisturbed.session, hfinished, rfl, rfl⟩
  have hplaces : (opened options files).length = options.sources.length :=
    Source.length_openAll _ _ _
  have hrecords := hcompletes.records_perm
  have hrejections := hcompletes.rejections_perm
  rw [hplaces] at hrecords hrejections
  exact ⟨hrecords, hrejections⟩

/-- A run has emptied its sources and its streams when its flow has ended without a cancellation. -/
theorem emptied_of_trace
    (htrace : Flow.Trace validator ((ofOptions options output created).launch files start) log f)
    (hongoing : f.pool.scope.cancelled = false) (hended : f.isEnded = true) :
    Emptied options files log ∧ ∀ w ∈ f.pool.workers, w.failed = 0 := by
  have hstart := undisturbed_launch options output files created start
  have hwired := wired_launch options output files created start
  have hwiredEnd := htrace.wired hwired
  have hundisturbed := htrace.undisturbed validator_ne_crashed hwired hstart hongoing
  rcases emitted_of_trace validator_ne_crashed htrace hongoing hended with ⟨hrecords, hrejections⟩
  have hevents := hundisturbed.accounted_perm hwiredEnd htrace
    (weight_launch options output files created start rfl) hended
  have hemptied : Emptied options files log := ⟨hrecords, hrejections, hevents⟩
  exact ⟨hemptied, hundisturbed.failed_eq_zero hwiredEnd htrace
    (weight_launch options output files created start rfl)
    (weight_launch options output files created start rfl) hended hemptied.isValid⟩

end Ended

/-! ## Accounts of an ended run -/

section Accounts

variable {options : RunOptions} {files : Files} {sink : Option Sink} {created start : Instant}
  {log : Log} {f : Flow}

/-- The accounts are lenient at the start, if the collector takes everything in and the sink takes
every line. -/
theorem lenient_launch (files : Files) (created start : Instant)
    (hforgives : options.tolerance.Forgives)
    (hreliable : ∀ s, sink = some s → ∀ taken, s.writeFault? taken = none) :
    ((ofOptions options ⟨sink, [], none⟩ created).launch files start).ledger.Lenient := by
  rw [launch_eq_close, Flow.ledger_close]
  exact ⟨hforgives, hreliable, rfl, rfl, rfl, rfl⟩

theorem counts_launch (options : RunOptions) (files : Files) (output : Output)
    (created start : Instant) :
    ((ofOptions options output created).launch files start).ledger.summary.counts = .zero ∧
    ((ofOptions options output created).launch files start).ledger.board.overall.counts = .zero ∧
    ∀ name ∈ Source.names options.sources,
      ((ofOptions options output created).launch files start).ledger.board.counts? name =
        some .zero := by
  rw [launch_eq_close, Flow.ledger_close]
  refine ⟨rfl, ?_, ?_⟩
  · rw [prepared, Board.counts_overall_start, ofOptions, Board.overall_foldl_addSource]
    rfl
  · intro name hname
    rw [prepared, Board.counts?_start, ofOptions, Board.counts?_foldl_addSource]
    simp [Board.counts?, Board.source?, Board.empty, hname]

/-- A run that has ended without a cancellation accounts for its rows. -/
theorem accounted_conclude (hforgives : options.tolerance.Forgives)
    (hreliable : ∀ s, sink = some s →
      (∀ taken, s.writeFault? taken = none) ∧ s.flushFault? = none)
    (htrace : Flow.Trace validator
      ((ofOptions options ⟨sink, [], none⟩ created).launch files start) log f)
    (hongoing : f.pool.scope.cancelled = false) (hended : f.isEnded = true) (finish : Instant) :
    Accounted options files sink
      ((ofOptions options ⟨sink, [], none⟩ created).conclude f finish).1
      ((ofOptions options ⟨sink, [], none⟩ created).conclude f finish).2 := by
  -- the parts of the ledger, each with its share of the events
  have hwrites := fun s hs => (hreliable s hs).1
  have hlenient := lenient_launch files created start hforgives hwrites
  rcases emptied_of_trace htrace hongoing hended with ⟨hemptied, hfailed⟩
  rcases counts_launch options files ⟨sink, [], none⟩ created start with
    ⟨hsummary, hoverall, hsources⟩
  have hledger := htrace.ledger
  have hafter := hlenient.accountAll log.accounted
  have hcauses := Ledger.causes_accountAll log.accounted hlenient.forgives.unlimited
  have hlines := fun hsome => hlenient.lines_accountAll hsome log.accounted
  have hsink := hlenient.reliable.sink_writeAll (log.accounted.filterMap fun e => e.2.line?)
  rw [← Ledger.output_accountAll] at hsink
  rw [← hledger] at hafter hcauses hlines hsink
  rw [output_launch] at hlines hsink
  rw [collector_launch] at hcauses
  -- to close the accounts changes neither counts nor entries nor lines
  refine ⟨?_, ?_, ?_, ?_, ?_, ?_, hfailed⟩
  · refine (outcome_eq_ok_iff _).2 ⟨hafter.unbreached, ?_⟩
    refine (Output.fault_flush_eq_none_iff _).2 ⟨hafter.faultless, ?_⟩
    rintro ⟨s, hs, hfault⟩
    rw [(hreliable s (hsink.symm.trans hs)).2] at hfault
    cases hfault
  · have hcounted : f.ledger.summary.counts = rowCounts options files (allPlaces options) := by
      rw [hledger, Ledger.summary_accountAll, Summary.counts_addAll, hsummary, hemptied.counts_all]
    exact (Summary.counts_finalize _ _).trans hcounted
  · have hcounted : f.ledger.board.overall.counts =
        rowCounts options files (allPlaces options) := by
      rw [hledger, Ledger.board_accountAll, Board.counts_overall_recordAll, hoverall,
        hemptied.counts_all]
    exact (Board.counts_stopAndPrintFinal _ _).trans hcounted
  · intro name hname
    have hcounted : f.ledger.board.counts? name =
        some (rowCounts options files (Source.placesOf options.sources name)) := by
      rw [hledger, Ledger.board_accountAll, Board.counts?_recordAll, hsources name hname,
        Option.map_some, hemptied.counts_of_name]
    exact hcounted
  · have hcollected : f.ledger.collector.causes =
        log.accounted.filterMap fun e => e.2.collected? := hcauses
    exact (List.Perm.of_eq hcollected).trans hemptied.causes
  · intro hsome
    have hwritten : f.ledger.output.lines = log.accounted.filterMap fun e => e.2.line? :=
      hlines hsome
    exact (List.Perm.of_eq ((Output.lines_flush _).trans hwritten)).trans hemptied.lines

/-- A move that is not a cancellation from outside does not cancel the run, and lessens its work. -/
theorem ongoing_of_step? (hforgives : options.tolerance.Forgives)
    (hwrites : ∀ s, sink = some s → ∀ taken, s.writeFault? taken = none)
    (htrace : Flow.Trace validator
      ((ofOptions options ⟨sink, [], none⟩ created).launch files start) log f)
    (hongoing : f.pool.scope.cancelled = false) {move : Flow.Move} {g : Flow}
    (hmove : move ≠ .stop) (hstep : f.step? validator move = some g) :
    g.pool.scope.cancelled = false ∧ g.work < f.work := by
  have hturn := Flow.turns_of_step? hstep
  have hlenient :=
    (lenient_launch files created start hforgives hwrites).accountAll log.accounted
  rw [← htrace.ledger] at hlenient
  exact ⟨hturn.ongoing validator_harmless hlenient hmove hongoing, hturn.work_lt hmove⟩

/-- A run of the validator with a collector that takes every error in and an output that never
fails, for all sources, all settings of the reader, any number of workers and any order of steps:

* unless it is cancelled from outside it goes on until it has ended, which it does, since every step
  lessens the work that is left,
* when it has ended it accounts for the rows of its sources,
* the validator fails no record that the reader finds well-formed.

In particular the run that the schedule makes accounts for the rows. -/
theorem validation_accounts_for_rows {options : RunOptions} {sink : Option Sink}
    (hforgives : options.tolerance.Forgives)
    (hreliable : ∀ s, sink = some s →
      (∀ taken, s.writeFault? taken = none) ∧ s.flushFault? = none)
    (files : Files) (created start finish : Instant) :
    (∀ f, Flow.Reaches validator
        ((ofOptions options ⟨sink, [], none⟩ created).launch files start) f →
      f.pool.scope.cancelled = false →
      (f.isEnded = false →
        ∃ move, move ≠ Flow.Move.stop ∧ (f.step? validator move).isSome = true) ∧
      (∀ move g, move ≠ Flow.Move.stop → f.step? validator move = some g →
        g.pool.scope.cancelled = false ∧ g.work < f.work) ∧
      (f.isEnded = true → Accounted options files sink
        ((ofOptions options ⟨sink, [], none⟩ created).conclude f finish).1
        ((ofOptions options ⟨sink, [], none⟩ created).conclude f finish).2)) ∧
    Accounted options files sink
      ((ofOptions options ⟨sink, [], none⟩ created).execute validator files start finish).1
      ((ofOptions options ⟨sink, [], none⟩ created).execute validator files start finish).2 ∧
    ∀ r : Record, r.validate = .ok () → validator false r = ⟨.success r.toJson, false, none⟩ := by
  have hwrites := fun s hs => (hreliable s hs).1
  have hwired := wired_launch options ⟨sink, [], none⟩ files created start
  have hstart := undisturbed_launch options ⟨sink, [], none⟩ files created start
  -- any uncancelled state goes on, with a move that the schedule tries
  have hgoes : ∀ log f, Flow.Trace validator
      ((ofOptions options ⟨sink, [], none⟩ created).launch files start) log f →
      f.pool.scope.cancelled = false → f.isEnded = false →
      ∃ move ∈ f.candidates start.wall, (f.step? validator move).isSome = true := by
    intro log f htrace hongoing hended
    have hundisturbed := htrace.undisturbed validator_ne_crashed hwired hstart hongoing
    exact hundisturbed.exists_candidate validator start.wall (htrace.wired hwired) hended
  refine ⟨?_, ?_, ?_⟩
  · intro f hreaches hongoing
    rcases hreaches.exists_trace with ⟨log, htrace⟩
    refine ⟨?_, ?_, ?_⟩
    · intro hended
      rcases hgoes log f htrace hongoing hended with ⟨move, hmove, hstep⟩
      exact ⟨move, Flow.ne_stop_of_mem_candidates hmove, hstep⟩
    · intro move g hmove hstep
      exact ongoing_of_step? hforgives hwrites htrace hongoing hmove hstep
    · intro hended
      exact accounted_conclude hforgives hreliable htrace hongoing hended finish
  · -- the schedule keeps to uncancelled traces, and leads to an end
    have hsettled := Flow.settle_ended validator start.wall
      (fun f => f.pool.scope.cancelled = false ∧ ∃ log, Flow.Trace validator
        ((ofOptions options ⟨sink, [], none⟩ created).launch files start) log f)
      (f := (ofOptions options ⟨sink, [], none⟩ created).launch files start) ?_ ?_
      ⟨hstart.ongoing, .empty, .start⟩
    · rcases hsettled with ⟨⟨hongoing, log, htrace⟩, hended⟩
      exact accounted_conclude hforgives hreliable htrace hongoing hended finish
    · rintro f ⟨hongoing, log, htrace⟩ hended
      exact hgoes log f htrace hongoing hended
    · rintro f g move ⟨hongoing, log, htrace⟩ hmove hstep
      have hnext := ongoing_of_step? hforgives hwrites htrace hongoing
        (Flow.ne_stop_of_mem_candidates hmove) hstep
      exact ⟨⟨hnext.1, _, .move move htrace hstep⟩, hnext.2⟩
  · intro r hvalid
    have hisValid : r.isValid = true := by simp [Record.isValid, hvalid]
    rw [Record.isValid_eq_isComplete] at hisValid
    simp [validator, hisValid]

/-- A run over three files of which one has a short row and one is missing. -/
def sampleOptions : RunOptions where
  reading := .standard
  sources := [⟨"a"⟩, ⟨"b"⟩, ⟨"c"⟩]
  buffer := 1
  pool := ⟨2, 1, 1, 1⟩
  tolerance := ⟨0, .zero, false⟩
  progress := .silent 0
  reports := false
  signals := false

/-- The files `a` with the lines `i,n`, `1,x` and `2`, and `b` with the lines `i,n` and `3,y`. -/
def sampleFiles : Files where
  root := .directory
    [("a", .file [105, 44, 110, 10, 49, 44, 120, 10, 50, 10]),
     ("b", .file [105, 44, 110, 10, 51, 44, 121, 10])]
  cwd := []

def sampleRun : Run × Except FlowError Unit :=
  (ofOptions sampleOptions ⟨some .reliable, [], none⟩ default).execute validator sampleFiles
    default default

theorem sampleRun_accounts_for_rows :
    sampleRun.2 = .ok () ∧ sampleRun.1.ledger.summary.counts = ⟨3, 2, 1, 0⟩ ∧
      sampleRun.1.ledger.board.counts? "a" = some ⟨2, 1, 1, 0⟩ ∧
      sampleRun.1.ledger.collector.causes.length = 2 ∧
      sampleRun.1.ledger.output.lines.Perm
        ["\x7b\"i\":\"1\",\"n\":\"x\"\x7d", "\x7b\"i\":\"3\",\"n\":\"y\"\x7d"] := by
  have hforgives : sampleOptions.tolerance.Forgives := ⟨rfl, .inl rfl⟩
  have hreliable : ∀ s, some Sink.reliable = some s →
      (∀ taken, s.writeFault? taken = none) ∧ s.flushFault? = none := by
    rintro s ⟨⟩
    exact ⟨fun _ => rfl, rfl⟩
  have haccounted := (validation_accounts_for_rows hforgives hreliable sampleFiles
    default default default).2.1
  refine ⟨haccounted.succeeds, ?_, ?_, ?_, ?_⟩
  · exact haccounted.summary.trans (by decide +kernel)
  · exact (haccounted.sources "a" (by decide +kernel)).trans (by decide +kernel)
  · exact haccounted.causes.length_eq.trans (by decide +kernel)
  · exact (haccounted.lines rfl).trans (List.Perm.of_eq (by decide +kernel))

end Accounts

end Run
end RecordFlow
