import RecordFlow.Proofs.Ledger.Lenient
import RecordFlow.Proofs.Pool.Progress
import RecordFlow.Proofs.Run.Undisturbed
import RecordFlow.Proofs.Source.Progress

/-!
# Progress — a flow comes to its end

Every move lessens the work that is left, but for a cancellation from outside
(`Flow.Turns.work_lt`), and an undisturbed flow that has not ended has a move that its schedule
tries (`Flow.Undisturbed.exists_candidate`).  So the schedule leads every flow that is not cancelled
on its way to its end (`Flow.settle_ended`).
-/

namespace RecordFlow
namespace Flow

variable {handler : Handler} {f g : Flow} {move : Move} {e : Option (Nat × Source.Emission)}
  {event : Option (Moment × Event)} {log : Log} {options : Source.Options}
  {sources : List (Except FlowError Source.Opened)}

/-! ## Work -/

/-- The work of a flow is that of its sources, of its streams and of its workers; a scope that goes
on can still be cancelled. -/
theorem work_eq (f : Flow) :
    f.work = f.reading.work + f.rejections.queue.length + f.pool.work +
      if f.pool.scope.cancelled then 0 else 1 :=
  rfl

/-- What an emission puts on the streams is no more than its onward work. -/
theorem work_emitAny (f : Flow) (e : Option Source.Emission) :
    (f.emitAny e).rejections.queue.length + (f.emitAny e).pool.work =
      f.rejections.queue.length + f.pool.work + e.elim 0 Source.Emission.onwardWork := by
  rw [emitAny_eq]
  rcases e with _ | e
  · simp [Pool.work]
  · cases e <;>
      simp only [Pool.work, Pool.recordWork, Option.bind_some, Source.Emission.rejection?,
        Source.Emission.record?, Option.toList_none, Option.toList_some, List.append_nil,
        List.length_append, List.length_singleton, Option.elim_some,
        Source.Emission.onwardWork] <;> omega

theorem work_close (f : Flow) : f.close.work = f.work := by
  rw [close_eq]
  rfl

/-- A scope that a turn changes is a cancelled one, so that less can happen to it. -/
theorem Turns.scope_le (h : f.Turns handler move e event g) :
    (if g.pool.scope.cancelled then 0 else 1) ≤ if f.pool.scope.cancelled then 0 else 1 := by
  cases hcancelled : f.pool.scope.cancelled with
  | true => simp [h.cancelled hcancelled]
  | false => cases g.pool.scope.cancelled <;> simp

/-- To account for an event is no work beyond taking it. -/
theorem work_account_lt {f₀ f : Flow} {time : Moment} {event : Event}
    (hscope : (if (f.account time event).pool.scope.cancelled then 0 else 1) ≤
      if f₀.pool.scope.cancelled then 0 else 1)
    (hless : f.reading.work + f.rejections.queue.length + f.pool.work <
      f₀.reading.work + f₀.rejections.queue.length + f₀.pool.work) :
    (f.account time event).work < f₀.work := by
  have hpool : (f.account time event).pool.work = f.pool.work := rfl
  have hrest : (f.account time event).reading.work +
      (f.account time event).rejections.queue.length =
        f.reading.work + f.rejections.queue.length := rfl
  rw [work_eq, work_eq, hpool, hrest]
  omega

/-- Every turn lessens the work that is left, unless it cancels the scope from outside. -/
theorem Turns.work_lt (h : f.Turns handler move e event g) (hmove : move ≠ .stop) :
    g.work < f.work := by
  have hscope := h.scope_le
  cases h with
  | @reads reading e i hadvance =>
    rcases Source.Reading.advance?_cases hadvance with ⟨t, t', slot, ht, hmove, rfl⟩
    -- the source pays for what its emission costs on the streams
    have hless := Source.Reading.work_place_lt ht hmove
    have hstreams := work_emitAny { f with reading := f.reading.place i t' slot } e
    have hreading : ({ f with reading := f.reading.place i t' slot }.emitAny e).reading =
        f.reading.place i t' slot := by rw [emitAny_eq]
    have hkept : ({ f with reading := f.reading.place i t' slot }.emitAny e).pool.scope =
        f.pool.scope := by rw [emitAny_eq]
    rw [work_close, work_eq, work_eq, hreading, hkept]
    simp only at hstreams
    omega
  | @givesUp reading i hquit =>
    rcases Source.Reading.quit?_cases (fun _ => .full) hquit with ⟨t, t', slot, ht, hmove, rfl⟩
    have hless := Source.Reading.work_place_lt ht hmove
    rw [work_close, work_eq, work_eq]
    simp only [Option.elim_none] at hless ⊢
    omega
  | works hstep =>
    have hless := Pool.work_step hstep
    rw [work_eq, work_eq]
    simp only at hscope ⊢
    omega
  | @takesResult r rest time hqueue =>
    have hpool : ({ f.pool with results.queue := rest } : Pool).work < f.pool.work := by
      by_cases hstage : f.pool.stage = .stopped <;> simp [Pool.work, hqueue, hstage]
    refine work_account_lt hscope ?_
    exact Nat.add_lt_add_left hpool _
  | @takesForwarded e rest time hqueue =>
    have hpool : ({ f.pool with errors.queue := rest } : Pool).work < f.pool.work := by
      by_cases hstage : f.pool.stage = .stopped <;> simp [Pool.work, hqueue, hstage]
    refine work_account_lt hscope ?_
    exact Nat.add_lt_add_left hpool _
  | @takesRejection e rest time hqueue =>
    have hrejections : rest.length < f.rejections.queue.length := by simp [hqueue]
    refine work_account_lt hscope ?_
    exact Nat.add_lt_add_right (Nat.add_lt_add_left hrejections _) _
  | escalates _ hongoing =>
    have hpool : f.pool.cancel.work = f.pool.work := rfl
    rw [work_eq, work_eq, hpool, hongoing]
    simp [Pool.cancel]
  | stops => exact absurd rfl hmove

/-- Only a cancellation from outside cancels a flow with a harmless processor and lenient
accounts. -/
theorem Turns.ongoing (hharmless : handler.Harmless) (hlenient : f.ledger.Lenient)
    (h : f.Turns handler move e event g) (hmove : move ≠ .stop)
    (hongoing : f.pool.scope.cancelled = false) : g.pool.scope.cancelled = false := by
  have haccount : ∀ time event, (f.ledger.account time event).cancelled = false :=
    fun time event => (hlenient.account time event).ongoing
  cases h with
  | reads => rw [close_eq, emitAny_eq]; exact hongoing
  | givesUp => rw [close_eq]; exact hongoing
  | works hstep => exact Pool.ongoing_step? hharmless hstep hongoing
  | takesResult | takesRejection | takesForwarded => simp [account, hongoing, haccount]
  | escalates hcollector _ =>
    rw [hlenient.collecting] at hcollector
    cases hcollector
  | stops => exact absurd rfl hmove

/-! ## Moves that can be made -/

theorem offer_of_queue_eq_nil {α : Type} {c : Channel α} (hqueue : c.queue = [])
    (hcapacity : 0 < c.capacity) (hreceived : c.abandoned = false) : c.offer = .accepted := by
  rw [Channel.offer_eq_accepted_iff]
  exact ⟨hreceived, by simpa [hqueue] using hcapacity⟩

/-- A source of an undisturbed flow goes on when the streams are empty. -/
theorem Undisturbed.exists_source (h : f.Undisturbed options sources log) (hwired : f.Wired)
    (hgoing : f.reading.isFinished = false) (hinput : f.pool.input.queue = [])
    (hrejections : f.rejections.queue = []) :
    ∃ i < f.reading.tasks.length, (f.source? i).isSome := by
  have hscope := Scope.eq_ongoing h.ongoing
  -- the earliest task that has not ended waits for no header, so that room is all it needs
  rcases Source.Session.exists_earliest_unfinished hgoing with ⟨i, t, ht, hunfinished, hbefore⟩
  have hwaits := Source.Session.not_waits_of_ended_before h.session hbefore
  have hroom : ∀ e, f.offer e ≠ .full := by
    intro e hfull
    cases e with
    | record r =>
      have hinputFull : f.pool.input.offer = .full := hfull
      unfold Channel.offer at hinputFull
      have hcapacity := hwired.inputCapacity
      split at hinputFull
      · cases hinputFull
      · rename_i hreceived
        simp [hinput] at hinputFull
        omega
    | rejected error r | failure error =>
      have haccepted := offer_of_queue_eq_nil hrejections hwired.rejectionsCapacity
        hwired.rejectionsReceived
      cases haccepted.symm.trans hfull
  have hadvance : (f.reading.advance? .ongoing f.offer i).isSome :=
    Source.Session.advance?_isSome (s := ⟨f.reading, .ongoing, true, log.emitted⟩) ht hunfinished
      hwaits fun e _ _ => hroom e
  rcases Option.isSome_iff_exists.1 hadvance with ⟨⟨reading, e⟩, hstep⟩
  refine ⟨i, (List.getElem?_eq_some_iff.1 ht).1, ?_⟩
  have hstep : f.reading.advance? f.pool.scope f.offer i = some (reading, e) := hscope ▸ hstep
  simp [source?, hstep]

/-- An undisturbed flow that has not ended has a move among those that the schedule tries. -/
theorem Undisturbed.exists_candidate (handler : Handler) (time : Moment)
    (h : f.Undisturbed options sources log) (hwired : f.Wired) (hended : f.isEnded = false) :
    ∃ move ∈ f.candidates time, (f.step? handler move).isSome := by
  -- what waits for the accounts comes first, then the workers, and the sources last
  cases hresults : f.pool.results.queue with
  | cons r rest =>
    exact ⟨.result time, by simp [candidates],
      by simp [step?, result?, Channel.receive?, hresults]⟩
  | nil =>
    cases hrejections : f.rejections.queue with
    | cons e rest =>
      exact ⟨.rejection time, by simp [candidates],
        by simp [step?, rejection?, Channel.receive?, hrejections]⟩
    | nil =>
      cases herrors : f.pool.errors.queue with
      | cons e rest =>
        exact ⟨.forwarded time, by simp [candidates],
          by simp [step?, forwarded?, Channel.receive?, herrors]⟩
      | nil =>
        by_cases hgoing : ∃ w ∈ f.pool.workers, w.isGone = false
        · have hroom := offer_of_queue_eq_nil hresults hwired.resultsCapacity
            hwired.resultsReceived
          rcases Pool.exists_advance handler hwired.balanced h.alive hroom hgoing with
            ⟨i, hi, hstep⟩ | ⟨hinput, hopen⟩
          · refine ⟨.worker (.advance i), by simp [candidates, hi], ?_⟩
            simpa [step?, Pool.step?, hwired.started] using hstep
          · have hunfinished : f.reading.isFinished = false := hwired.closed.symm.trans hopen
            rcases h.exists_source hwired hunfinished hinput hrejections with ⟨i, hi, hstep⟩
            exact ⟨.source i, by simp [candidates, hi], hstep⟩
        · -- all workers have ended, and so have the sources
          have hgone : ∀ w ∈ f.pool.workers, w.isGone = true := by simpa using hgoing
          rcases List.exists_mem_of_ne_nil _ hwired.workers with ⟨w, hw⟩
          have hfinished := (h.ended w hw (hgone w hw)).2
          have hall := hwired.isEnded_iff.2 ⟨hfinished, hgone, hrejections, hresults, herrors⟩
          cases hall.symm.trans hended

/-! ## The schedule -/

/-- What the schedule keeps, if it can always go on and lessens the work, it keeps to the end. -/
theorem follow_ended {time : Moment} {P : Flow → Prop}
    (progress : ∀ f, P f → f.isEnded = false →
      ∃ move ∈ f.candidates time, (f.step? handler move).isSome)
    (keeps : ∀ f g move, P f → move ∈ f.candidates time → f.step? handler move = some g →
      P g ∧ g.work < f.work)
    (fuel : Nat) (hf : P f) (hfuel : f.work ≤ fuel) :
    P (f.follow handler time fuel) ∧ (f.follow handler time fuel).isEnded = true := by
  have hended : ∀ f, P f → (∀ move ∈ f.candidates time, f.step? handler move = none) →
      f.isEnded = true := by
    intro f hf hnone
    by_contra hnot
    rcases progress f hf (by simpa using hnot) with ⟨move, hmove, hsome⟩
    rw [hnone move hmove] at hsome
    cases hsome
  -- on the fuel: a move lessens the work, so that the fuel outlasts it
  induction fuel generalizing f with
  | zero =>
    refine ⟨hf, hended f hf fun move hmove => ?_⟩
    cases hstep : f.step? handler move with
    | none => rfl
    | some g =>
      have hless := (keeps f g move hf hmove hstep).2
      omega
  | succ fuel ih =>
    unfold follow
    cases hnext : f.next? handler time with
    | none => exact ⟨hf, hended f hf (List.findSome?_eq_none_iff.1 hnext)⟩
    | some g =>
      rcases List.exists_of_findSome?_eq_some hnext with ⟨move, hmove, hstep⟩
      rcases keeps f g move hf hmove hstep with ⟨hg, hless⟩
      exact ih hg (by omega)

theorem settle_ended (handler : Handler) (time : Moment) (P : Flow → Prop)
    (progress : ∀ f, P f → f.isEnded = false →
      ∃ move ∈ f.candidates time, (f.step? handler move).isSome)
    (keeps : ∀ f g move, P f → move ∈ f.candidates time → f.step? handler move = some g →
      P g ∧ g.work < f.work)
    (hf : P f) : P (f.settle handler time) ∧ (f.settle handler time).isEnded = true :=
  follow_ended progress keeps f.work hf le_rfl

theorem ne_stop_of_mem_candidates {time : Moment} {move : Move} (h : move ∈ f.candidates time) :
    move ≠ .stop := by
  rintro rfl
  simp [candidates] at h

end Flow
end RecordFlow
