import RecordFlow.Proofs.Pool.Permits
import RecordFlow.Proofs.Run.Trace
import RecordFlow.Proofs.Source.Session
import RecordFlow.Run.Basic

/-!
# Streams — how the parts of a flow hang together

The streams of the sources close when all sources have ended, the records lose their receivers when
all workers have, and the accounts receive to the end.  This holds for every processor, and whether
or not the scope is cancelled (`Flow.Trace.wired`).  The scope follows the accounts when they cancel
the run (`Flow.Trace.heeds`).
-/

namespace RecordFlow

/-! ## Emissions on their streams -/

namespace Flow

/-- To close the streams of a flow is to close them if the sources have ended. -/
theorem close_eq (f : Flow) :
    f.close = { f with
      rejections.closed := f.rejections.closed || f.reading.isFinished
      pool.input.closed := f.pool.input.closed || f.reading.isFinished } := by
  unfold close
  cases h : f.reading.isFinished <;> simp

theorem emitAny_eq (f : Flow) (e : Option Source.Emission) :
    f.emitAny e = { f with
      rejections.queue := f.rejections.queue ++ (e.bind Source.Emission.rejection?).toList
      pool.input.queue := f.pool.input.queue ++ (e.bind Source.Emission.record?).toList } := by
  rcases e with _ | e
  · simp [emitAny]
  · cases e <;>
      simp [emitAny, emit, Channel.push, Source.Emission.rejection?, Source.Emission.record?]

variable {handler : Handler} {f g : Flow} {move : Move} {e : Option (Nat × Source.Emission)}
  {event : Option (Moment × Event)}

theorem Turns.cancelled (h : f.Turns handler move e event g)
    (hcancelled : f.pool.scope.cancelled = true) : g.pool.scope.cancelled = true := by
  cases h with
  | reads => rw [close_eq, emitAny_eq]; exact hcancelled
  | givesUp => rw [close_eq]; exact hcancelled
  | works hstep => exact Pool.cancelled_step? hstep hcancelled
  | takesResult | takesRejection | takesForwarded => simp [account, hcancelled]
  | escalates | stops => rfl

/-- What is not cancelled has not been cancelled before. -/
theorem Turns.was_ongoing (h : f.Turns handler move e event g)
    (hongoing : g.pool.scope.cancelled = false) : f.pool.scope.cancelled = false := by
  cases hcancelled : f.pool.scope.cancelled with
  | false => rfl
  | true => exact (h.cancelled hcancelled).symm.trans hongoing

/-! ## The scope and the accounts -/

/-- Whether the scope is cancelled if the accounts have cancelled the run. -/
def Heeds (f : Flow) : Prop := f.ledger.cancelled = true → f.pool.scope.cancelled = true

theorem heeds_account (f : Flow) (time : Moment) (e : Event) : (f.account time e).Heeds := by
  intro hcancelled
  have hledger : (f.ledger.account time e).cancelled = true := hcancelled
  simp [account, hledger]

theorem Heeds.turn (h : f.Heeds) (hturn : f.Turns handler move e event g) : g.Heeds := by
  have hquiet : g.ledger = f.ledger → g.Heeds := by
    intro hledger hcancelled
    rw [hledger] at hcancelled
    exact hturn.cancelled (h hcancelled)
  have hledger := hturn.ledger
  cases hturn with
  | reads | givesUp | works | escalates | stops => exact hquiet hledger
  | takesResult | takesRejection | takesForwarded => exact heeds_account _ _ _

/-- A scope that follows the accounts does so along every trace. -/
theorem Trace.heeds {log : Log} (h : Trace handler f log g) (hf : f.Heeds) : g.Heeds :=
  h.induction (P := fun _ g => g.Heeds) hf fun _ _ _ _ _ _ _ hturn ih => ih.turn hturn

/-- A move that gives the accounts an event does nothing else to the scope. -/
theorem Turns.scope_of_event {time : Moment} {taken : Event}
    (h : f.Turns handler move e (some (time, taken)) g) :
    g.pool.scope = f.pool.scope.cancelIf (f.ledger.account time taken).cancelled := by
  cases h <;> rfl

end Flow

theorem Source.Task.Moves.isFinished_eq_false {options : Source.Options} {cancelled : Bool}
    {known : Source.Agreement} {offer : Source.Emission → Offer} {t t' : Source.Task}
    {slot : Option Source.Slot} {e : Option Source.Emission}
    (hmove : t.Moves options cancelled known offer t' slot e) : t.isFinished = false := by
  cases hmove <;> rfl

namespace Source.Reading

variable {r r' : Source.Reading} {scope : Scope}

theorem isFinished_eq_false_of_getElem? {i : Nat} {t : Source.Task}
    (ht : r.tasks[i]? = some t) (hgoing : t.isFinished = false) : r.isFinished = false := by
  cases hfinished : r.isFinished with
  | false => rfl
  | true =>
    have hall := List.all_eq_true.1 hfinished t (List.mem_of_getElem? ht)
    rw [hgoing] at hall
    cases hall

theorem isFinished_of_advance? {offer : Source.Emission → Offer} {i : Nat}
    {e : Option Source.Emission} (h : r.advance? scope offer i = some (r', e)) :
    r.isFinished = false := by
  rcases advance?_cases h with ⟨t, t', slot, ht, hmove, _⟩
  exact isFinished_eq_false_of_getElem? ht hmove.isFinished_eq_false

theorem isFinished_of_quit? {i : Nat} (h : r.quit? scope i = some r') : r.isFinished = false := by
  rcases quit?_cases (fun _ => .full) h with ⟨t, t', slot, ht, hmove, _⟩
  exact isFinished_eq_false_of_getElem? ht hmove.isFinished_eq_false

end Source.Reading

namespace Flow

variable {handler : Handler} {f g : Flow} {move : Move} {e : Option (Nat × Source.Emission)}
  {event : Option (Moment × Event)}

/-! ## Wiring -/

/-- What holds of the streams of a flow at all times. -/
structure Wired (f : Flow) : Prop where
  started : f.pool.stage ≠ .notStarted
  workers : f.pool.workers ≠ []
  balanced : f.pool.Balanced
  inputCapacity : 0 < f.pool.input.capacity
  resultsCapacity : 0 < f.pool.results.capacity
  rejectionsCapacity : 0 < f.rejections.capacity
  resultsReceived : f.pool.results.abandoned = false
  rejectionsReceived : f.rejections.abandoned = false
  /-- The records end with the sources. -/
  closed : f.pool.input.closed = f.reading.isFinished
  /-- The records have receivers as long as there are workers. -/
  abandoned : f.pool.input.abandoned = true → ∀ w ∈ f.pool.workers, w.isGone = true

/-- A flow has ended when the sources and the workers have and nothing is left on a stream to the
accounts. -/
theorem Wired.isEnded_iff (hwired : f.Wired) : f.isEnded = true ↔
    f.reading.isFinished = true ∧ (∀ w ∈ f.pool.workers, w.isGone = true) ∧
      f.rejections.queue = [] ∧ f.pool.results.queue = [] ∧ f.pool.errors.queue = [] := by
  simp [isEnded, Pool.isGone, hwired.started, and_assoc]

theorem Wired.works (hwired : f.Wired) {move : Pool.Move} {pool : Pool}
    (h : f.pool.step? handler move = some pool) : Wired { f with pool } := by
  have hbalanced := hwired.balanced.step h
  rcases Pool.step?_cases h with ⟨_, i, w, w', q, hw, hmove, rfl⟩ | ⟨_, _, rfl⟩
  · have halike := hmove.alike
    refine ⟨?_, ?_, hbalanced, ?_, ?_, hwired.rejectionsCapacity, ?_, hwired.rejectionsReceived,
      ?_, ?_⟩
    · exact halike.stage.symm ▸ hwired.started
    · rw [halike.workers_place, ne_eq, List.set_eq_nil_iff]
      exact hwired.workers
    · exact halike.inputCapacity.symm ▸ hwired.inputCapacity
    · exact halike.resultsCapacity.symm ▸ hwired.resultsCapacity
    · exact halike.resultsAbandoned.trans hwired.resultsReceived
    · exact halike.inputClosed.trans hwired.closed
    · intro habandoned w₁ hw₁
      rcases Bool.or_eq_true_iff.1 habandoned with hbefore | hall
      · -- the worker that moved had not ended, so that the records had a receiver
        have hgone := hwired.abandoned (halike.inputAbandoned ▸ hbefore) w
          (List.mem_of_getElem? hw)
        rw [hmove.isGone_eq_false] at hgone
        cases hgone
      · exact List.all_eq_true.1 hall w₁ hw₁
  · exact ⟨by simp, hwired.workers, hbalanced, hwired.inputCapacity, hwired.resultsCapacity,
      hwired.rejectionsCapacity, hwired.resultsReceived, hwired.rejectionsReceived, hwired.closed,
      hwired.abandoned⟩

theorem Wired.turn (hwired : f.Wired) (h : f.Turns handler move e event g) : g.Wired := by
  cases h with
  | @reads reading e i hadvance =>
    -- the stream of records was open, so that it closes with the last source and not before
    have hopen : f.pool.input.closed = false :=
      hwired.closed.trans (Source.Reading.isFinished_of_advance? hadvance)
    rw [close_eq, emitAny_eq]
    exact { hwired with
      balanced := hwired.balanced.congr rfl rfl
      closed := by simp [hopen] }
  | @givesUp reading i hquit =>
    have hopen : f.pool.input.closed = false :=
      hwired.closed.trans (Source.Reading.isFinished_of_quit? hquit)
    rw [close_eq]
    exact { hwired with
      balanced := hwired.balanced.congr rfl rfl
      closed := by simp [hopen] }
  | works hstep => exact hwired.works hstep
  | takesResult | takesRejection | takesForwarded | escalates | stops =>
    exact { hwired with balanced := hwired.balanced.congr rfl rfl }

/-- The wiring stays as it is along every trace. -/
theorem Trace.wired {log : Log} (h : Trace handler f log g) (hwired : f.Wired) : g.Wired :=
  h.induction (P := fun _ g => g.Wired) hwired fun _ _ _ _ _ _ _ hturn ih => ih.turn hturn

end Flow

/-! ## The launch -/

namespace Run

variable (options : RunOptions) (output : Output) (files : Files) (created start : Instant)

/-- The flow of a run before it is known whether there are sources. -/
def prepared : Flow :=
  { reading := .ofSources options.reading
      (Source.openAll options.reading files options.sources)
    rejections := .empty (rejectionCapacity options)
    pool := { Pool.ofOptions options.pool .ongoing (.empty (Source.bufferSize options.buffer)) with
      stage := .running }
    ledger :=
      { (ofOptions options output created).ledger with
        board := ((ofOptions options output created).ledger.board.start start.steady).1
        summary := (ofOptions options output created).ledger.summary.start start } }

theorem launch_eq_close :
    (ofOptions options output created).launch files start =
      (prepared options output files created start).close :=
  rfl

/-- A run begins with the reading of its sources. -/
theorem reading_launch :
    ((ofOptions options output created).launch files start).reading =
      .ofSources options.reading (Source.openAll options.reading files options.sources) := by
  rw [launch_eq_close, Flow.close_eq]
  rfl

theorem rejections_launch :
    ((ofOptions options output created).launch files start).rejections.queue = [] := by
  rw [launch_eq_close, Flow.close_eq]
  rfl

theorem calls_launch :
    ((ofOptions options output created).launch files start).pool.calls = 0 := by
  rw [launch_eq_close, Flow.close_eq]
  rfl

/-- At its start a run has no accounts that could have cancelled it. -/
theorem heeds_launch : ((ofOptions options output created).launch files start).Heeds := by
  intro hcancelled
  rw [launch_eq_close, Flow.ledger_close] at hcancelled
  cases hcancelled

theorem bufferSize_pos (size : Nat) : 0 < Source.bufferSize size := by
  unfold Source.bufferSize Source.usualBuffer
  split <;> omega

/-- A run is wired at its start. -/
theorem wired_launch :
    ((ofOptions options output created).launch files start).Wired := by
  have hworkers := options.pool.workerCount_pos
  rw [launch_eq_close, Flow.close_eq]
  refine ⟨by simp [prepared], ?_, ?_, bufferSize_pos _, ?_, ?_, rfl, rfl, ?_, ?_⟩
  · have hreplicate : List.replicate options.pool.workerCount Worker.initial ≠ [] := by
      rw [ne_eq, List.replicate_eq_nil_iff]
      omega
    exact hreplicate
  · exact (Pool.balanced_ofOptions options.pool .ongoing (.empty 0)).congr rfl rfl
  · have hcapacity : 0 < options.pool.resultCapacity := by
      unfold PoolOptions.resultCapacity
      split <;> omega
    exact hcapacity
  · have hcapacity : 0 < rejectionCapacity options :=
      lt_of_lt_of_le (bufferSize_pos options.buffer) (Nat.le_max_left _ _)
    exact hcapacity
  · simp [prepared, Pool.ofOptions, Channel.empty]
  · intro habandoned
    cases habandoned

end Run
end RecordFlow
