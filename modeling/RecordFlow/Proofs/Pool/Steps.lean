import RecordFlow.Pool.Schedule
import RecordFlow.Proofs.Places

/-!
# Steps — what one step of a worker does

A step of a pool moves one worker from one phase to another, and changes what the workers share: the
records that wait, the permits, the results and the errors on their streams, and the scope.

* `Worker.Moves` lists what one step does, one constructor for each kind of step,
* `Pool.step?_cases` says that it does nothing else.
-/

namespace RecordFlow

/-! ## What the processor decides -/

namespace Verdict

/-- What a verdict on a record comes to, where an error finds room on its stream or not; nothing
when the processor breaks off. -/
def decision? (v : Verdict) (r : Record) (room : Bool) : Option Decision :=
  match v with
  | .success payload => some (.success payload)
  | .skipped => some .skipped
  | .failed error => some (.failed error false)
  | .errored error => some (.failed (.context "process" r.source r.line error) room)
  | .crashed => none

/-- The error of a verdict that goes out on its own stream. -/
def forwarded? (v : Verdict) (r : Record) (room : Bool) : Option RecordError :=
  match v with
  | .errored error =>
    if room then some ⟨.context "process" r.source r.line error, some r⟩ else none
  | _ => none

end Verdict

def Decision.isFailed : Decision → Bool
  | .failed .. => true
  | _ => false

namespace Pool

/-- Puts a worker into its place.  When no worker is left the records have no receiver any more. -/
def place (p : Pool) (i : Nat) (w : Worker) : Pool :=
  let workers := p.workers.set i w
  { p with
    workers
    input := { p.input with abandoned := p.input.abandoned || workers.all Worker.isGone } }

/-- Whether the stream of errors takes one more. -/
def hasRoom (p : Pool) : Bool := p.errors.offer = .accepted

/-- Puts an error on its stream, if there is one. -/
def forwardAny (p : Pool) (e : Option RecordError) : Pool :=
  { p with errors := e.elim p.errors p.errors.push }

end Pool

/-! ## Moves of one worker -/

namespace Worker

def enter (w : Worker) (phase : Phase) : Worker := { w with phase }

/-- Counts a processed record. -/
def tally (w : Worker) (failed : Bool) : Worker :=
  { w with
    processed := w.processed + 1
    failed := if failed then w.failed + 1 else w.failed }

/-- One step of a worker of a pool: the worker it becomes, and the pool around it. -/
inductive Moves (handler : Handler) (p : Pool) (w : Worker) : Worker → Pool → Prop where
  | looks :
      w.phase = .idle →
      Moves handler p w (w.enter (if p.scope.cancelled then .exited else .selecting)) p
  | takes {r : Record} {rest : List Record} :
      w.phase = .selecting → p.input.queue = r :: rest →
      Moves handler p w (w.enter (.holding r)) { p with input.queue := rest }
  | leaves :
      w.phase = .selecting → p.input.queue = [] → p.input.closed = true →
      Moves handler p w (w.enter .exited) p
  | holds {r : Record} :
      w.phase = .holding r →
      Moves handler p w (w.enter (if p.scope.cancelled then .exited
        else if p.semaphore.isSome then .requesting r else .processing r)) p
  | requests {r : Record} :
      w.phase = .requesting r →
      Moves handler p w (w.enter (if p.scope.cancelled then .exited else .waiting r)) p
  | acquires {r : Record} {s : Semaphore} :
      w.phase = .waiting r → p.semaphore = some s → s.held < s.limit →
      Moves handler p w (w.enter (.processing r))
        { p with semaphore := some { s with held := s.held + 1 } }
  | crashes {r : Record} :
      w.phase = .processing r → (p.answer handler r).verdict = .crashed →
      Moves handler p w (w.enter .dead) (p.disturb (p.answer handler r))
  | decides {r : Record} {decision : Decision} :
      w.phase = .processing r →
      (p.answer handler r).verdict.decision? r p.hasRoom = some decision →
      Moves handler p w
        ((w.tally decision.isFailed).enter
          (if p.semaphore.isSome then .releasing ⟨r, decision⟩ else .offering ⟨r, decision⟩))
        ((p.disturb (p.answer handler r)).forwardAny
          ((p.answer handler r).verdict.forwarded? r p.hasRoom))
  | releases {result : Result} {s : Semaphore} :
      w.phase = .releasing result → p.semaphore = some s → s.held ≠ 0 →
      Moves handler p w (w.enter (.offering result))
        { p with semaphore := some { s with held := s.held - 1 } }
  | offers {result : Result} :
      w.phase = .offering result →
      Moves handler p w (w.enter (if p.scope.cancelled then .exited else .sending result)) p
  | sends {result : Result} :
      w.phase = .sending result → p.results.offer = .accepted →
      Moves handler p w (w.enter .idle) { p with results := p.results.push result }
  | quits :
      p.scope.cancelled = true → Pool.isWaiting w = true →
      Moves handler p w (w.enter .exited) p

end Worker

/-- Two pools that are laid out alike, and the streams of which are closed and abandoned alike. -/
structure Pool.Alike (p q : Pool) : Prop where
  workers : q.workers = p.workers
  stage : q.stage = p.stage
  inputCapacity : q.input.capacity = p.input.capacity
  inputClosed : q.input.closed = p.input.closed
  inputAbandoned : q.input.abandoned = p.input.abandoned
  resultsCapacity : q.results.capacity = p.results.capacity
  resultsAbandoned : q.results.abandoned = p.results.abandoned

/-- Where only one worker is put into its place, the others are as they were. -/
theorem Pool.Alike.workers_place {p q : Pool} (halike : p.Alike q) (i : Nat) (w : Worker) :
    (q.place i w).workers = p.workers.set i w := by
  rw [Pool.place, halike.workers]

theorem Worker.Moves.alike {handler : Handler} {p q : Pool} {w w' : Worker}
    (hmove : w.Moves handler p w' q) : p.Alike q := by
  cases hmove <;> exact ⟨rfl, rfl, rfl, rfl, rfl, rfl, rfl⟩

theorem Worker.Moves.isGone_eq_false {handler : Handler} {p q : Pool} {w w' : Worker}
    (hmove : w.Moves handler p w' q) : w.isGone = false := by
  cases hmove with
  | quits _ hwaiting => cases hphase : w.phase <;> simp_all [Worker.isGone, Pool.isWaiting]
  | _ => simp [Worker.isGone, *]

/-- Uncancelled, a worker ends only when there are no records and there will be none. -/
theorem Worker.Moves.isGone_after {handler : Handler} {p q : Pool} {w w' : Worker}
    (hmove : w.Moves handler p w' q) (hongoing : p.scope.cancelled = false)
    (hdecides : ∀ n r, (handler.answer n false r).verdict ≠ .crashed) :
    w'.phase ≠ .dead ∧
      (w'.isGone = true → p.input.queue = [] ∧ p.input.closed = true) := by
  cases hmove with
  | leaves _ hqueue hclosed => exact ⟨by simp [Worker.enter], fun _ => ⟨hqueue, hclosed⟩⟩
  | @crashes r _ hverdict =>
    rw [Pool.answer, hongoing] at hverdict
    exact absurd hverdict (hdecides p.calls r)
  | quits hcancelled _ =>
    rw [hongoing] at hcancelled
    cases hcancelled
  | holds _ => cases hs : p.semaphore <;> simp [Worker.enter, Worker.isGone, hongoing]
  | decides _ _ => cases hs : p.semaphore <;> simp [Worker.enter, Worker.isGone]
  | _ => simp [Worker.enter, Worker.isGone, hongoing]

theorem Worker.Moves.queue_eq_nil {handler : Handler} {p q : Pool} {w w' : Worker}
    (hmove : w.Moves handler p w' q) (hqueue : p.input.queue = []) : q.input.queue = [] := by
  cases hmove with
  | takes _ hsome =>
    rw [hsome] at hqueue
    cases hqueue
  | _ => exact hqueue

theorem Worker.Moves.cancelled {handler : Handler} {p q : Pool} {w w' : Worker}
    (hmove : w.Moves handler p w' q) (hcancelled : p.scope.cancelled = true) :
    q.scope.cancelled = true := by
  cases hmove with
  | crashes | decides => simp [Pool.disturb, Pool.forwardAny, hcancelled]
  | _ => exact hcancelled

/-- Whether an uncancelled processor does nothing to the run besides its verdict. -/
def Handler.Harmless (handler : Handler) : Prop :=
  ∀ n r, (handler.answer n false r).cancels = false ∧ (handler.answer n false r).signal = none

/-- A harmless processor does not cancel. -/
theorem Worker.Moves.ongoing {handler : Handler} {p q : Pool} {w w' : Worker}
    (hharmless : handler.Harmless) (hmove : w.Moves handler p w' q)
    (hongoing : p.scope.cancelled = false) : q.scope.cancelled = false := by
  cases hmove with
  | @crashes r | @decides r =>
    rcases hharmless p.calls r with ⟨hcancels, hsignal⟩
    simp [Pool.answer, Pool.disturb, Pool.forwardAny, hongoing, hcancels, hsignal]
  | _ => exact hongoing

namespace Pool

variable {handler : Handler} {p p' : Pool} {i : Nat} {w : Worker}

theorem setPhase_eq_place (h : p.workers[i]? = some w) (phase : Phase) :
    p.setPhase i phase = p.place i (w.enter phase) := by
  simp [setPhase, place, Worker.enter, modify_eq_set h]

/-- A record that was processed is counted where the worker goes on. -/
theorem emit_tally_eq_place (h : p.workers[i]? = some w) (failed : Bool) (result : Result) :
    (p.tally i failed).emit i result = p.place i ((w.tally failed).enter
      (if p.semaphore.isSome then .releasing result else .offering result)) := by
  have hlt : i < p.workers.length := (List.getElem?_eq_some_iff.1 h).1
  -- the place of the worker is set twice, and the second time counts
  have hworkers : (p.tally i failed).workers = p.workers.set i (w.tally failed) :=
    modify_eq_set h
  have hplace : (p.tally i failed).workers[i]? = some (w.tally failed) := by
    simp [hworkers, hlt]
  rw [emit, setPhase_eq_place hplace, place, place, hworkers, List.set_set]
  rfl

/-- An error of the processor goes out where there is room, and its result says so. -/
theorem forward_eq (p : Pool) (r : Record) (error : FlowError) :
    p.forward r error =
      (p.forwardAny ((Verdict.errored error).forwarded? r p.hasRoom),
        ⟨r, .failed (.context "process" r.source r.line error) p.hasRoom⟩) := by
  unfold forward hasRoom
  cases p.errors.offer <;> rfl

/-- To run the processor is to count what it decides, or to be taken along by it. -/
theorem process_cases (handler : Handler) (h : p.workers[i]? = some w) (r : Record) :
    ∃ w' q, p.process handler i r = q.place i w' ∧
      (w.phase = .processing r → w.Moves handler p w' q) := by
  have hdisturbed : (p.disturb (p.answer handler r)).workers[i]? = some w := h
  cases hverdict : (p.answer handler r).verdict with
  | crashed =>
    refine ⟨_, _, ?_, fun hphase => .crashes hphase hverdict⟩
    rw [process, hverdict]
    exact setPhase_eq_place hdisturbed _
  | success payload =>
    refine ⟨_, _, ?_, fun hphase => .decides hphase (by rw [hverdict]; rfl)⟩
    rw [process, hverdict]
    exact emit_tally_eq_place hdisturbed _ _
  | skipped =>
    refine ⟨_, _, ?_, fun hphase => .decides hphase (by rw [hverdict]; rfl)⟩
    rw [process, hverdict]
    exact emit_tally_eq_place hdisturbed _ _
  | failed error =>
    refine ⟨_, _, ?_, fun hphase => .decides hphase (by rw [hverdict]; rfl)⟩
    rw [process, hverdict]
    exact emit_tally_eq_place hdisturbed _ _
  | errored error =>
    refine ⟨_, _, ?_, fun hphase => .decides hphase (by rw [hverdict]; rfl)⟩
    -- the error goes out before the record is counted
    have hforwarded : ((p.disturb (p.answer handler r)).forwardAny
        ((Verdict.errored error).forwarded? r p.hasRoom)).workers[i]? = some w := h
    rw [process, hverdict]
    simp only [forward_eq]
    exact emit_tally_eq_place hforwarded true
      ⟨r, .failed (.context "process" r.source r.line error) p.hasRoom⟩

/-! ## Steps of a pool -/

/-- A step of a worker that goes on is one of its moves. -/
theorem advance?_cases (h : p.advance? handler i = some p') :
    ∃ (w w' : Worker) (q : Pool),
      p.workers[i]? = some w ∧ w.Moves handler p w' q ∧ p' = q.place i w' := by
  cases hw : p.workers[i]? with
  | none => simp [advance?, hw] at h
  | some w =>
    -- every branch sets the phase of this worker, whatever it does to the streams
    have hset : ∀ (q : Pool) (phase : Phase), q.workers = p.workers →
        q.setPhase i phase = q.place i (w.enter phase) :=
      fun q phase hq => setPhase_eq_place (hq ▸ hw) phase
    refine ⟨w, ?_⟩
    cases hphase : w.phase with
    | idle =>
      have : p.proceed i .selecting = p' := by simpa [advance?, hw, hphase] using h
      exact ⟨_, p, rfl, .looks hphase, this.symm.trans (hset _ _ rfl)⟩
    | selecting =>
      cases hqueue : p.input.queue with
      | nil =>
        have : p.input.closed = true ∧ p.setPhase i .exited = p' := by
          simpa [advance?, hw, hphase, Channel.receive?, hqueue] using h
        exact ⟨_, p, rfl, .leaves hphase hqueue this.1, this.2.symm.trans (hset _ _ rfl)⟩
      | cons r rest =>
        have : { p with input.queue := rest }.setPhase i (.holding r) = p' := by
          simpa [advance?, hw, hphase, Channel.receive?, hqueue] using h
        exact ⟨_, _, rfl, .takes hphase hqueue,
          this.symm.trans (hset _ _ rfl)⟩
    | holding r =>
      have : p.proceed i (if p.semaphore.isSome then .requesting r else .processing r) = p' := by
        simpa [advance?, hw, hphase] using h
      exact ⟨_, p, rfl, .holds hphase, this.symm.trans (hset _ _ rfl)⟩
    | requesting r =>
      have : p.proceed i (.waiting r) = p' := by simpa [advance?, hw, hphase] using h
      exact ⟨_, p, rfl, .requests hphase, this.symm.trans (hset _ _ rfl)⟩
    | waiting r =>
      cases hs : p.semaphore with
      | none => simp [advance?, hw, hphase, hs] at h
      | some s =>
        cases ht : s.tryAcquire? with
        | none => simp [advance?, hw, hphase, hs, ht] at h
        | some t =>
          have : { p with semaphore := some t }.setPhase i (.processing r) = p' := by
            simpa [advance?, hw, hphase, hs, ht] using h
          rcases Semaphore.tryAcquire?_eq_some_iff.1 ht with ⟨hfree, rfl⟩
          exact ⟨_, _, rfl, .acquires hphase hs hfree,
            this.symm.trans (hset _ _ rfl)⟩
    | processing r =>
      have : p.process handler i r = p' := by simpa [advance?, hw, hphase] using h
      rcases process_cases handler hw r with ⟨w', q, hprocess, hmoves⟩
      exact ⟨w', q, rfl, hmoves hphase, this.symm.trans hprocess⟩
    | releasing result =>
      cases hs : p.semaphore with
      | none => simp [advance?, hw, hphase, hs] at h
      | some s =>
        cases ht : s.release? with
        | none => simp [advance?, hw, hphase, hs, ht] at h
        | some t =>
          have : { p with semaphore := some t }.setPhase i (.offering result) = p' := by
            simpa [advance?, hw, hphase, hs, ht] using h
          rcases Semaphore.release?_eq_some_iff.1 ht with ⟨hheld, rfl⟩
          exact ⟨_, _, rfl, .releases hphase hs hheld,
            this.symm.trans (hset _ _ rfl)⟩
    | offering result =>
      have : p.proceed i (.sending result) = p' := by simpa [advance?, hw, hphase] using h
      exact ⟨_, p, rfl, .offers hphase, this.symm.trans (hset _ _ rfl)⟩
    | sending result =>
      cases ho : p.results.offer with
      | accepted =>
        have : { p with results := p.results.push result }.setPhase i .idle = p' := by
          simpa [advance?, hw, hphase, ho] using h
        exact ⟨_, _, rfl, .sends hphase ho,
          this.symm.trans (hset _ _ rfl)⟩
      | full => simp [advance?, hw, hphase, ho] at h
      | refused => simp [advance?, hw, hphase, ho] at h
    | exited => simp [advance?, hw, hphase] at h
    | dead => simp [advance?, hw, hphase] at h

theorem quit?_cases (h : p.quit? i = some p') :
    ∃ (w w' : Worker) (q : Pool),
      p.workers[i]? = some w ∧ w.Moves handler p w' q ∧ p' = q.place i w' := by
  rcases Option.bind_eq_some_iff.1 h with ⟨w, hw, h⟩
  have : (p.scope.cancelled = true ∧ isWaiting w = true) ∧ p.setPhase i .exited = p' := by
    simpa using h
  rcases this with ⟨⟨hcancelled, hwaiting⟩, rfl⟩
  exact ⟨w, _, p, hw, .quits hcancelled hwaiting, setPhase_eq_place hw _⟩

theorem advance?_of_step? (h : p.step? handler (.advance i) = some p') :
    p.stage ≠ .notStarted ∧ p.advance? handler i = some p' := by
  simpa [step?] using h

theorem quit?_of_step? (h : p.step? handler (.quit i) = some p') :
    p.stage ≠ .notStarted ∧ p.quit? i = some p' := by
  simpa [step?] using h

theorem retire_of_step? (h : p.step? handler .retire = some p') :
    p.isGone = true ∧ p.stage ≠ .stopped ∧ p' = { p with stage := .stopped } := by
  have hretire : (p.isGone = true ∧ p.stage ≠ .stopped) ∧ { p with stage := .stopped } = p' := by
    simpa [step?] using h
  exact ⟨hretire.1.1, hretire.1.2, hretire.2.symm⟩

/-- A step of a pool moves one of its workers, or notes that all of them have ended. -/
theorem step?_cases {move : Move} (h : p.step? handler move = some p') :
    (p.stage ≠ .notStarted ∧ ∃ (i : Nat) (w w' : Worker) (q : Pool),
      p.workers[i]? = some w ∧ w.Moves handler p w' q ∧ p' = q.place i w') ∨
    (p.isGone = true ∧ p.stage ≠ .stopped ∧ p' = { p with stage := .stopped }) := by
  cases move with
  | advance i =>
    rcases advance?_of_step? h with ⟨hstage, hadvance⟩
    exact .inl ⟨hstage, i, advance?_cases hadvance⟩
  | quit i =>
    rcases quit?_of_step? h with ⟨hstage, hquit⟩
    exact .inl ⟨hstage, i, quit?_cases hquit⟩
  | retire => exact .inr (retire_of_step? h)

theorem cancelled_step? {move : Move} (h : p.step? handler move = some p')
    (hcancelled : p.scope.cancelled = true) : p'.scope.cancelled = true := by
  rcases step?_cases h with ⟨_, i, w, w', q, _, hmove, rfl⟩ | ⟨_, _, rfl⟩
  · exact hmove.cancelled hcancelled
  · exact hcancelled

theorem ongoing_step? (hharmless : handler.Harmless) {move : Move}
    (h : p.step? handler move = some p') (hongoing : p.scope.cancelled = false) :
    p'.scope.cancelled = false := by
  rcases step?_cases h with ⟨_, i, w, w', q, _, hmove, rfl⟩ | ⟨_, _, rfl⟩
  · have hafter := hmove.ongoing hharmless hongoing
    exact hafter
  · exact hongoing

end Pool
end RecordFlow
