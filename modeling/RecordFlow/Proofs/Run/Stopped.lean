import RecordFlow.Proofs.Run.Cancellation
import RecordFlow.Proofs.Run.Concord
import RecordFlow.Proofs.Run.Delivery

/-!
# Stopped — a run that is stopped before it starts

A source looks at the scope before it sends anything, and a worker before it takes a record.  If the
scope has been cancelled before the first move, neither gets past its first look: the sources are
still opened and their headers compared, but whatever comes of that is given up.

* `Flow.Silent` is what holds of such a flow at all times, `Flow.Silent.turn` says that no move
  emits, accounts for or calls anything,
* `Run.untouched` is the run that is left at the end, whichever order the moves were made in,
* `Run.faceless` is what a run shows apart from the names of its sources and its clocks.
-/

namespace RecordFlow

/-! ## Workers -/

/-- Whether a worker has not looked at the scope yet, or has left when it first did. -/
def Worker.IsUnused (w : Worker) : Prop := w = .initial ∨ w = Worker.initial.enter .exited

theorem Worker.IsUnused.processing?_eq_none {w : Worker} (h : w.IsUnused) :
    w.processing? = none := by
  rcases h with rfl | rfl <;> rfl

theorem Worker.Moves.unused {handler : Handler} {p q : Pool} {w w' : Worker}
    (hmove : w.Moves handler p w' q) (hunused : w.IsUnused)
    (hcancelled : p.scope.cancelled = true) : w'.IsUnused ∧ q = p := by
  cases hmove with
  | looks hphase =>
    rw [if_pos hcancelled]
    rcases hunused with rfl | rfl
    · exact ⟨.inr rfl, rfl⟩
    · cases hphase
  | quits _ hwaiting => rcases hunused with rfl | rfl <;> cases hwaiting
  | takes hphase | leaves hphase | holds hphase | requests hphase | acquires hphase
  | crashes hphase | decides hphase | releases hphase | offers hphase | sends hphase =>
    rcases hunused with rfl | rfl <;> cases hphase

/-! ## Flows -/

namespace Flow

variable {handler : Handler} {f g : Flow} {move : Move} {e : Option (Nat × Source.Emission)}
  {event : Option (Moment × Event)} {log : Log} {calls : List Call} {count : Nat}

/-- Whether a flow with some number of workers has been cancelled before any of them took a record
and before a source sent anything. -/
structure Silent (count : Nat) (f : Flow) : Prop where
  cancelled : f.pool.scope.cancelled = true
  workers : f.pool.workers.length = count
  unused : ∀ w ∈ f.pool.workers, w.IsUnused
  unsent : ∀ t ∈ f.reading.tasks, t.sending? = none
  rejections : f.rejections.queue = []
  input : f.pool.input.queue = []
  results : f.pool.results.queue = []
  errors : f.pool.errors.queue = []
  signal : f.pool.signal = none

theorem Silent.call?_eq_none (h : f.Silent count) (handler : Handler) (move : Move) :
    f.call? handler move = none := by
  cases move with
  | worker move =>
    cases move with
    | advance i =>
      have hnone : f.pool.workers[i]?.bind (Worker.call? handler f.pool) = none := by
        rw [Option.bind_eq_none_iff]
        intro w hw
        have hunused := h.unused w (List.mem_of_getElem? hw)
        rw [Worker.call?, hunused.processing?_eq_none, Option.map_none]
      exact hnone
    | quit | retire => rfl
  | _ => rfl

/-- A source of a silent flow emits nothing, and does not begin to send. -/
theorem Silent.task (h : f.Silent count) {i : Nat} {t t' : Source.Task} {slot : Option Source.Slot}
    {e : Option Source.Emission} {offer : Source.Emission → Offer}
    (ht : f.reading.tasks[i]? = some t)
    (hmove : t.Moves f.reading.options f.pool.scope.cancelled
      (Source.agreement (f.reading.slots.take i)) offer t' slot e) :
    e = none ∧ ∀ t ∈ (f.reading.place i t' slot).tasks, t.sending? = none := by
  rw [h.cancelled] at hmove
  have hwinds := hmove.winds
  rw [h.unsent t (List.mem_of_getElem? ht), Option.toList_none, List.sublist_nil,
    List.append_eq_nil_iff, Option.toList_eq_nil_iff, Option.toList_eq_nil_iff] at hwinds
  refine ⟨hwinds.1, ?_⟩
  intro t₁ ht₁
  rcases List.mem_or_eq_of_mem_set ht₁ with hbefore | rfl
  · exact h.unsent t₁ hbefore
  · exact hwinds.2

/-- A move of a silent flow leaves nothing behind, and leads to a silent flow. -/
theorem Silent.turn (h : f.Silent count) (hturn : f.Turns handler move e event g) :
    e = none ∧ event = none ∧ g.Silent count := by
  cases hturn with
  | reads i hadvance =>
    rcases Source.Reading.advance?_cases hadvance with ⟨t, t', slot, ht, hmove, rfl⟩
    rcases h.task ht hmove with ⟨rfl, hunsent⟩
    refine ⟨rfl, rfl, ?_⟩
    rw [close_eq]
    exact { h with unsent := hunsent }
  | givesUp i hquit =>
    rcases Source.Reading.quit?_cases (fun _ => .full) hquit with ⟨t, t', slot, ht, hmove, rfl⟩
    refine ⟨rfl, rfl, ?_⟩
    rw [close_eq]
    exact { h with unsent := (h.task ht hmove).2 }
  | works hstep =>
    refine ⟨rfl, rfl, ?_⟩
    rcases Pool.step?_cases hstep with ⟨_, i, w, w', q, hw, hmove, rfl⟩ | ⟨_, _, rfl⟩
    · rcases hmove.unused (h.unused w (List.mem_of_getElem? hw)) h.cancelled with ⟨hunused, rfl⟩
      refine { h with workers := ?_, unused := ?_ }
      · exact List.length_set.trans h.workers
      · intro w₁ hw₁
        rcases List.mem_or_eq_of_mem_set hw₁ with hbefore | rfl
        · exact h.unused w₁ hbefore
        · exact hunused
    · exact { h with }
  | takesResult time hqueue =>
    rw [h.results] at hqueue
    cases hqueue
  | takesRejection time hqueue =>
    rw [h.rejections] at hqueue
    cases hqueue
  | takesForwarded time hqueue =>
    rw [h.errors] at hqueue
    cases hqueue
  | escalates | stops => exact ⟨rfl, rfl, { h with cancelled := rfl }⟩

/-- Whatever moves a silent flow makes, nothing is emitted or accounted for, and the processor is
not called. -/
theorem Silent.called (h : f.Silent count) (hcalled : f.Called handler log calls g) :
    log = .empty ∧ calls = [] ∧ g.Silent count := by
  induction hcalled with
  | start => exact ⟨rfl, rfl, h⟩
  | @move log calls g next m _ hstep ih =>
    rcases ih with ⟨rfl, rfl, hsilent⟩
    rcases hsilent.turn (turns_of_step? hstep) with ⟨hemission, hevent, hnext⟩
    rw [hemission, hevent, hsilent.call?_eq_none]
    exact ⟨rfl, rfl, hnext⟩

/-- When a silent flow has ended, all its workers have left. -/
theorem Silent.workers_eq (h : f.Silent count) (hgone : ∀ w ∈ f.pool.workers, w.isGone = true) :
    f.pool.workers = List.replicate count (Worker.initial.enter .exited) := by
  refine List.eq_replicate_iff.2 ⟨h.workers, ?_⟩
  intro w hw
  rcases h.unused w hw with rfl | rfl
  · cases hgone _ hw
  · rfl

end Flow

/-! ## Boards -/

namespace Board

/-- Sources that are put on a board get a silent tracker each. -/
theorem tracker_of_mem_foldl_addSource {names : List String} {b : Board} {now : Duration}
    (hb : ∀ s ∈ b.sources, s.2 = .ofOptions (.silent 0) now) :
    ∀ s ∈ (names.foldl (fun b name => b.addSource name 0 now) b).sources,
      s.2 = .ofOptions (.silent 0) now := by
  induction names generalizing b with
  | nil => exact hb
  | cons name rest ih =>
    refine ih ?_
    intro s hs
    change s ∈ (b.addSource name 0 now).sources at hs
    unfold addSource at hs
    split at hs
    · exact hb s hs
    · rcases List.mem_append.1 hs with hs | hs
      · exact hb s hs
      · rw [List.mem_singleton.1 hs]

/-- Trackers that have not been started are all started. -/
theorem startSources_of_unstarted (now : Duration) {sources : List (String × Tracker)}
    (hsources : ∀ s ∈ sources, s.2.started = false) :
    startSources now sources =
      (sources.map fun s => (s.1, { s.2 with
        started := true
        since := now
        reporting := s.2.options.reports }), .ok ()) := by
  induction sources with
  | nil => rfl
  | cons s rest ih =>
    rcases s with ⟨name, t⟩
    have hunstarted : ¬ t.started = true := by
      rw [hsources (name, t) List.mem_cons_self]
      exact Bool.false_ne_true
    have hstart : t.start now =
        ({ t with started := true, since := now, reporting := t.options.reports }, .ok ()) :=
      if_neg hunstarted
    rw [startSources, hstart, ih fun s hs => hsources s (List.mem_cons_of_mem _ hs)]
    rfl

theorem Fresh.stopAndPrintFinal {given : List String} {b : Board} (hfresh : b.Fresh given)
    (now : Duration) : (b.stopAndPrintFinal now).Fresh given :=
  ⟨hfresh.nodup, hfresh.names, hfresh.zeros,
    (counts_stopAndPrintFinal b.overall now).trans hfresh.overall⟩

end Board

/-! ## Times -/

/-- A tracker without what its clock showed, and without its texts, which show it. -/
def Tracker.timeless (t : Tracker) : Tracker := { t with since := .zero, written := [] }

/-- The texts of a tracker that has counted nothing, some time after its start. -/
def TrackerOptions.emptyTexts (options : TrackerOptions) (elapsed : Duration) : List String :=
  if options.reports then
    Tracker.told options
      [.progress ⟨.zero, options.total, elapsed⟩, .closing ⟨.zero, options.total, elapsed⟩]
  else []

def Summary.timeless (s : Summary) : Summary :=
  { s with
    started := .zero
    startTime := default
    endTime := s.endTime.map fun _ => default
    duration := .zero }

namespace Run

def faceless (r : Run) : Run :=
  { r with
    options.sources := []
    ledger.board := ⟨[], r.ledger.board.overall.timeless⟩
    ledger.summary := r.ledger.summary.timeless }

/-! ## The end -/

section Stopped

variable (options : RunOptions) (sink : Option Sink) (files : Files)
  (created start finish : Instant)

/-- The accounts of a run that has been started and has taken nothing. -/
def opening : Ledger :=
  { (ofOptions options ⟨sink, [], none⟩ created).ledger with
    board := ((ofOptions options ⟨sink, [], none⟩ created).ledger.board.start start.steady).1
    summary := (ofOptions options ⟨sink, [], none⟩ created).ledger.summary.start start }

def untouched : Run :=
  { options
    stage := .finalized
    scope := ⟨true⟩
    ledger := closeLedger (opening options sink created start) finish
    workers := List.replicate options.pool.workerCount (Worker.initial.enter .exited)
    signal := none
    report := "" }

/-- What a run tells that has done nothing. -/
structure NothingDone (r : Run) : Prop where
  finalized : r.stage = .finalized
  summary : r.ledger.summary.counts = .zero
  /-- Every source has its tracker, and all trackers are at zero. -/
  board : r.ledger.board.Fresh (Source.names options.sources)
  sources : ∀ s ∈ r.ledger.board.sources,
    s.2.timeless = { Tracker.ofOptions (.silent 0) .zero with started := true }
  workers : ∀ w ∈ r.workers, w.processed = 0 ∧ w.failed = 0
  collector : r.ledger.collector = .empty options.tolerance
  output : r.ledger.output = ⟨sink, [], none⟩
  report : r.report = ""
  signal : r.signal = none

theorem board_opening :
    (∀ s ∈ (opening options sink created start).board.sources, s.2 =
      { Tracker.ofOptions (.silent 0) start.steady with started := true }) ∧
    (opening options sink created start).board.overall =
      { Tracker.ofOptions options.progress start.steady with
        started := true
        reporting := options.progress.reports } := by
  let board := (ofOptions options ⟨sink, [], none⟩ created).ledger.board
  have htrackers : ∀ s ∈ board.sources, s.2 = .ofOptions (.silent 0) created.steady :=
    Board.tracker_of_mem_foldl_addSource fun _ hs => by cases hs
  have hoverall : board.overall = .ofOptions options.progress created.steady :=
    Board.overall_foldl_addSource _ _ _
  have hsources := Board.startSources_of_unstarted start.steady
    fun s hs => congrArg Tracker.started (htrackers s hs)
  have hboard : (opening options sink created start).board = (board.start start.steady).1 := rfl
  rw [hboard, Board.start, hsources, hoverall]
  refine ⟨?_, rfl⟩
  intro s hs
  rcases List.mem_map.1 hs with ⟨s', hs', rfl⟩
  simp only [htrackers s' hs']
  rfl

/-- An output that took nothing and can be flushed stays as it is. -/
theorem flush_of_flushable {sink : Option Sink}
    (hflush : ∀ s, sink = some s → s.flushFault? = none) :
    (⟨sink, [], none⟩ : Output).flush = ⟨sink, [], none⟩ := by
  cases sink with
  | none => rfl
  | some s => simp [Output.flush, hflush s rfl]

theorem nothingDone_untouched (hflush : ∀ s, sink = some s → s.flushFault? = none) :
    NothingDone options sink (untouched options sink created start finish) := by
  have hfresh : (opening options sink created start).board.Fresh (Source.names options.sources) :=
    ((Board.fresh_empty options.progress created.steady).foldl_addSource _ _).start _
  refine ⟨rfl, Summary.counts_finalize _ _, hfresh.stopAndPrintFinal _, ?_, ?_, rfl, ?_, rfl, rfl⟩
  · intro s hs
    rw [(board_opening options sink created start).1 s hs]
    rfl
  · intro w hw
    rw [List.eq_of_mem_replicate hw]
    exact ⟨rfl, rfl⟩
  · exact flush_of_flushable hflush

/-- The tracker for all has told what there is to tell of nothing. -/
theorem overall_untouched :
    (untouched options sink created start finish).ledger.board.overall =
      { Tracker.ofOptions options.progress start.steady with
        started := true
        written := options.progress.emptyTexts (.between start.steady finish.steady) } := by
  have hoverall : (untouched options sink created start finish).ledger.board.overall =
      ((opening options sink created start).board.overall.callStopAndPrintFinal finish.steady).1 :=
    rfl
  rw [hoverall, (board_opening options sink created start).2,
    Tracker.callStopAndPrintFinal_eq_tell, Tracker.fst_tell]
  cases hreports : options.progress.reports <;>
    simp [Tracker.stopped, Tracker.ofOptions, Tracker.sample, TrackerOptions.emptyTexts, hreports,
      Tracker.told]

/-- Nothing but names and times tells whose run it was that has done nothing. -/
theorem faceless_untouched (others : List Path) (created' start' finish' : Instant) :
    (untouched { options with sources := others } sink created' start' finish').faceless =
      (untouched options sink created start finish).faceless := by
  have hbefore := overall_untouched options sink created start finish
  have hafter := overall_untouched { options with sources := others } sink created' start' finish'
  rw [faceless, faceless, hbefore, hafter]
  rfl

variable {options sink files created start}

theorem ledger_launch_stop :
    ((ofOptions options ⟨sink, [], none⟩ created).stop.launch files start).ledger =
      opening options sink created start := by
  rw [launch, Flow.ledger_close]
  rfl

theorem silent_launch_stop :
    ((ofOptions options ⟨sink, [], none⟩ created).stop.launch files start).Silent
      options.pool.workerCount := by
  have hstart : ((ofOptions options ⟨sink, [], none⟩ created).stop.launch files start) =
      { prepared options ⟨sink, [], none⟩ files created start with
        pool := (prepared options ⟨sink, [], none⟩ files created start).pool.cancel }.close := rfl
  rw [hstart, Flow.close_eq]
  refine ⟨rfl, List.length_replicate, ?_, ?_, rfl, rfl, rfl, rfl, rfl⟩
  · intro w hw
    exact .inl (List.eq_of_mem_replicate hw)
  · intro t ht
    rcases List.mem_map.1 ht with ⟨source, _, rfl⟩
    rfl

theorem wired_launch_stop :
    ((ofOptions options ⟨sink, [], none⟩ created).stop.launch files start).Wired := by
  have hstep := step?_stop_launch validator options ⟨sink, [], none⟩ files created start
  exact (wired_launch options ⟨sink, [], none⟩ files created start).turn
    (Flow.turns_of_step? hstep)

/-- The end of a silent flow with the accounts of the start. -/
theorem conclude_eq_untouched (hflush : ∀ s, sink = some s → s.flushFault? = none) {f : Flow}
    (hsilent : f.Silent options.pool.workerCount)
    (hgone : ∀ w ∈ f.pool.workers, w.isGone = true)
    (hledger : f.ledger = opening options sink created start) (finish : Instant) :
    (ofOptions options ⟨sink, [], none⟩ created).stop.conclude f finish =
      (untouched options sink created start finish, .ok ()) := by
  have hscope : f.pool.scope = ⟨true⟩ := by
    rcases hscope : f.pool.scope with ⟨cancelled⟩
    have hcancelled := hsilent.cancelled
    rw [hscope] at hcancelled
    rw [show cancelled = true from hcancelled]
  have hreport : errorReport (closeLedger (opening options sink created start) finish).collector =
      "" := rfl
  have houtcome : outcome (closeLedger (opening options sink created start) finish) = .ok () := by
    refine (outcome_eq_ok_iff _).2 ⟨rfl, ?_⟩
    exact congrArg Output.fault (flush_of_flushable hflush)
  rw [conclude, hledger, hscope, hsilent.workers_eq hgone, hsilent.signal, hreport, houtcome,
    ite_self, ite_self]
  rfl

/-- A run that has done nothing returns: its output has not failed, and its progress shows nothing
that could be left. -/
theorem finish_of_opening (hflush : ∀ s, sink = some s → s.flushFault? = none) {f : Flow}
    (hledger : f.ledger = opening options sink created start) (r : Run) (finish : Instant) :
    r.finish f finish = .returned (r.conclude f finish).1 (r.conclude f finish).2 := by
  have hfault : (closeLedger f.ledger finish).output.fault ≠ some .brokenPipe := by
    rw [hledger, show (closeLedger (opening options sink created start) finish).output =
      (⟨sink, [], none⟩ : Output).flush from rfl, flush_of_flushable hflush]
    nofun
  unfold Run.finish
  simp only
  rw [if_neg hfault]
  cases hpanics : (f.ledger.board.callStopAndPrintFinal finish.steady).2 with
  | ok _ => rfl
  | error text =>
    have hway := Tracker.isUnderWay_of_panics (t := f.ledger.board.overall) hpanics
    rw [hledger, (board_opening options sink created start).2] at hway
    exact absurd hway.1 (Nat.not_lt_zero _)

/-- At the end of any moves nothing has happened. -/
theorem ending_eq_untouched (hflush : ∀ s, sink = some s → s.flushFault? = none)
    {handler : Handler} {log : Log} {calls : List Call} {f : Flow}
    (hcalled : ((ofOptions options ⟨sink, [], none⟩ created).stop.launch files start).Called
      handler log calls f)
    (hended : f.isEnded = true) (finish : Instant) :
    (ofOptions options ⟨sink, [], none⟩ created).stop.conclude f finish =
      (untouched options sink created start finish, .ok ()) ∧
    (ofOptions options ⟨sink, [], none⟩ created).stop.finish f finish =
      .returned (untouched options sink created start finish) (.ok ()) := by
  have hwired := hcalled.trace.wired wired_launch_stop
  rcases silent_launch_stop.called hcalled with ⟨rfl, rfl, hsilent⟩
  have hledger := hcalled.trace.ledger
  rw [ledger_launch_stop] at hledger
  have hconcluded :=
    conclude_eq_untouched hflush hsilent (hwired.isEnded_iff.1 hended).2.1 hledger finish
  refine ⟨hconcluded, ?_⟩
  rw [finish_of_opening hflush hledger, hconcluded]

end Stopped

/-- A run that is stopped before it starts does nothing, whatever its sources are, whatever its
processor would do, however it is set up, and in whichever order its parts move, as long as its
output can be flushed:

* nothing is emitted or accounted for, and the processor is not called,
* the run goes on until it has ended, which it does, since every step lessens the work that is left,
* it returns and ends well, and the state that it leaves depends on its settings, on the list of its
  sources and on the clocks, and on nothing that is in the sources,
* in this state all counters are at zero, and nothing has been written or reported,
* with other sources the state is the same, but for their names and the clocks, and so are the texts
  on the progress but for the time that they show. -/
theorem stopped_run_does_nothing (handler : Handler) (options : RunOptions)
    {sink : Option Sink} (hflush : ∀ s, sink = some s → s.flushFault? = none) (files : Files)
    (created start finish : Instant) :
    (∀ log calls f, ((ofOptions options ⟨sink, [], none⟩ created).stop.launch files start).Called
        handler log calls f →
      log = .empty ∧ calls = [] ∧
      (f.isEnded = false →
        ∃ move, move ≠ Flow.Move.stop ∧ (f.step? handler move).isSome = true) ∧
      (∀ move g, move ≠ Flow.Move.stop → f.step? handler move = some g → g.work < f.work) ∧
      (f.isEnded = true →
        (ofOptions options ⟨sink, [], none⟩ created).stop.conclude f finish =
          (untouched options sink created start finish, .ok ()) ∧
        (ofOptions options ⟨sink, [], none⟩ created).stop.finish f finish =
          .returned (untouched options sink created start finish) (.ok ()))) ∧
    (ofOptions options ⟨sink, [], none⟩ created).stop.execute handler files start finish =
      (untouched options sink created start finish, .ok ()) ∧
    (ofOptions options ⟨sink, [], none⟩ created).stop.perform handler files start finish =
      .returned (untouched options sink created start finish) (.ok ()) ∧
    NothingDone options sink (untouched options sink created start finish) ∧
    ∀ others created' start' finish',
      (untouched { options with sources := others } sink created' start' finish').faceless =
        (untouched options sink created start finish).faceless ∧
      (untouched { options with sources := others } sink created' start'
          finish').ledger.board.overall.written =
        options.progress.emptyTexts (.between start'.steady finish'.steady) := by
  have hothers : ∀ others created' start' finish',
      (untouched { options with sources := others } sink created' start' finish').faceless =
        (untouched options sink created start finish).faceless ∧
      (untouched { options with sources := others } sink created' start'
          finish').ledger.board.overall.written =
        options.progress.emptyTexts (.between start'.steady finish'.steady) := by
    intro others created' start' finish'
    refine ⟨faceless_untouched options sink created start finish others created' start' finish', ?_⟩
    rw [overall_untouched]
  -- the schedule is one of the orders of moves, and leads to the end
  have hsettled := Course.called_settled handler start.wall
    ((ofOptions options ⟨sink, [], none⟩ created).stop.launch files start)
  have hcancelled := (silent_launch_stop.called hsettled).2.2.cancelled
  have hfinal := ending_eq_untouched hflush hsettled
    ((hsettled.trace.wired wired_launch_stop).settle_ended_of_cancelled hcancelled) finish
  refine ⟨?_, hfinal.1, hfinal.2, nothingDone_untouched options sink created start finish hflush,
    hothers⟩
  intro log calls f hcalled
  rcases silent_launch_stop.called hcalled with ⟨hlog, hcalls, hsilent⟩
  refine ⟨hlog, hcalls, ?_, ?_, fun hended => ending_eq_untouched hflush hcalled hended finish⟩
  · intro hended
    rcases (hcalled.trace.wired wired_launch_stop).exists_move_of_cancelled handler start.wall
      hsilent.cancelled hended with ⟨move, hmove, hstep⟩
    exact ⟨move, Flow.ne_stop_of_mem_candidates hmove, hstep⟩
  · intro move g hmove hstep
    exact (Flow.turns_of_step? hstep).work_lt hmove

/-- The sample run is stopped before it starts, and so is a run over one source that is missing. -/
theorem stopped_sampleRun_does_nothing :
    let stopped := (ofOptions sampleOptions ⟨some .reliable, [], none⟩ default).stop.execute
      validator sampleFiles default default
    let astray := { sampleOptions with sources := [⟨"d"⟩] }
    stopped.2 = .ok () ∧ stopped.1.ledger.summary.counts = .zero ∧
      stopped.1.ledger.board.counts? "a" = some .zero ∧ stopped.1.ledger.output.lines = [] ∧
      ((ofOptions astray ⟨some .reliable, [], none⟩ default).stop.execute validator sampleFiles
        ⟨⟨5, 0⟩, ⟨7, 0⟩⟩ default).1.faceless = stopped.1.faceless := by
  intro stopped astray
  have hflush : ∀ s, some Sink.reliable = some s → s.flushFault? = none := by
    rintro s ⟨⟩
    rfl
  rcases stopped_run_does_nothing validator sampleOptions hflush sampleFiles default default
    default with ⟨_, hstopped, _, hnothing, hothers⟩
  have hastray := (stopped_run_does_nothing validator astray hflush sampleFiles default
    ⟨⟨5, 0⟩, ⟨7, 0⟩⟩ default).2.1
  have hrun : stopped =
      (untouched sampleOptions (some .reliable) default default default, .ok ()) := hstopped
  rw [hastray, hrun]
  refine ⟨rfl, hnothing.summary, by decide +kernel, ?_, (hothers _ _ _ _).1⟩
  rw [hnothing.output]
  rfl

end Run
end RecordFlow
