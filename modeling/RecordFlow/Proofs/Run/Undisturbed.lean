import RecordFlow.Proofs.Pool.Conservation
import RecordFlow.Proofs.Run.Streams

/-!
# Undisturbed — flows the scope of which is not cancelled

In a flow that has not been cancelled the sources run as a session of their own: the streams never
refuse what they emit, since a worker only ends when the sources have (`Flow.Undisturbed`).  Errors
of sources come to the accounts in the order in which they were emitted, and the records that were
emitted are in the pool or with the accounts, as records or as results (`Flow.Trace.weighs`).
-/

namespace RecordFlow

universe u

namespace Log

/-- The records that were emitted. -/
def records (log : Log) : List Record := log.emitted.filterMap fun e => e.2.record?

/-- The errors of sources that were emitted. -/
def rejections (log : Log) : List RecordError := log.emitted.filterMap fun e => e.2.rejection?

theorem emitted_extend_none (log : Log) (event : Option (Moment × Event)) :
    (log.extend none event).emitted = log.emitted :=
  List.append_nil _

theorem accounted_extend_none (log : Log) (e : Option (Nat × Source.Emission)) :
    (log.extend e none).accounted = log.accounted :=
  List.append_nil _

theorem records_extend (log : Log) (i : Nat) (e : Option Source.Emission)
    (event : Option (Moment × Event)) :
    (log.extend (e.map (i, ·)) event).records =
      log.records ++ (e.bind Source.Emission.record?).toList := by
  rcases e with _ | e
  · simp [records, extend]
  · cases h : e.record? <;> simp [records, extend, h]

theorem rejections_extend (log : Log) (i : Nat) (e : Option Source.Emission)
    (event : Option (Moment × Event)) :
    (log.extend (e.map (i, ·)) event).rejections =
      log.rejections ++ (e.bind Source.Emission.rejection?).toList := by
  rcases e with _ | e
  · simp [rejections, extend]
  · cases h : e.rejection? <;> simp [rejections, extend, h]

end Log

/-- The error of a source that an event accounts for. -/
def Event.reading? : Event → Option RecordError
  | .reading e => some e
  | _ => none

/-- What an event weighs that comes from the pool. -/
def Event.weight {M : Type u} [AddCommMonoid M] (scale : Scale M) : Event → M
  | .result r => scale.result r
  | .reading _ => 0
  | .processing e => scale.error e

theorem Scope.eq_ongoing {s : Scope} (h : s.cancelled = false) : s = .ongoing := by
  cases s
  cases h
  rfl

theorem Source.Reading.quit?_of_ongoing {r : Source.Reading} {scope : Scope} {i : Nat}
    (h : scope.cancelled = false) : r.quit? scope i = none := by
  cases ht : r.tasks[i]? with
  | none => simp [quit?, ht]
  | some t => cases t <;> simp [quit?, ht, h]

namespace Flow

variable {handler : Handler} {f g : Flow} {move : Move} {e : Option (Nat × Source.Emission)}
  {event : Option (Moment × Event)} {log : Log} {options : Source.Options}
  {sources : List (Except FlowError Source.Opened)}

/-- What holds of a flow over `sources` that has not been cancelled. -/
structure Undisturbed (options : Source.Options)
    (sources : List (Except FlowError Source.Opened)) (log : Log) (f : Flow) : Prop where
  ongoing : f.pool.scope.cancelled = false
  alive : ∀ w ∈ f.pool.workers, w.phase ≠ .dead
  /-- A worker only ends behind the sources. -/
  ended : ∀ w ∈ f.pool.workers, w.isGone = true →
    f.pool.input.queue = [] ∧ f.reading.isFinished = true
  session : Source.Session.Reaches (.ofSources options sources)
    ⟨f.reading, .ongoing, true, log.emitted⟩
  rejections : log.rejections =
    (log.accounted.filterMap fun e => e.2.reading?) ++ f.rejections.queue

/-- The streams take what the sources of an undisturbed flow emit, sooner or later. -/
theorem Undisturbed.offer_ne_refused (h : f.Undisturbed options sources log) (hwired : f.Wired)
    (hgoing : f.reading.isFinished = false) (e : Source.Emission) : f.offer e ≠ .refused := by
  have hinput : f.pool.input.abandoned = false := by
    cases habandoned : f.pool.input.abandoned with
    | false => rfl
    | true =>
      rcases List.exists_mem_of_ne_nil _ hwired.workers with ⟨w, hw⟩
      have hfinished := (h.ended w hw (hwired.abandoned habandoned w hw)).2
      rw [hgoing] at hfinished
      cases hfinished
  intro hrefused
  cases e with
  | record r =>
    have habandoned := (Channel.offer_eq_refused_iff _).1 hrefused
    rw [hinput] at habandoned
    cases habandoned
  | rejected error r | failure error =>
    have habandoned := (Channel.offer_eq_refused_iff _).1 hrefused
    rw [hwired.rejectionsReceived] at habandoned
    cases habandoned

/-- A flow stays undisturbed as long as it is not cancelled. -/
theorem Undisturbed.turn (hdecides : ∀ n r, (handler.answer n false r).verdict ≠ .crashed)
    (h : f.Undisturbed options sources log) (hwired : f.Wired)
    (hturn : f.Turns handler move e event g) (hongoing : g.pool.scope.cancelled = false) :
    g.Undisturbed options sources (log.extend e event) := by
  have hscope := Scope.eq_ongoing h.ongoing
  have hquiet : ∀ event, Source.Session.Reaches (.ofSources options sources)
      ⟨f.reading, .ongoing, true, (log.extend none event).emitted⟩ := by
    intro event
    rw [Log.emitted_extend_none]
    exact h.session
  have hsilent : ∀ event, (log.extend none event).rejections = log.rejections := by
    intro event
    rw [Log.rejections, Log.emitted_extend_none, Log.rejections]
  cases hturn with
  | @reads reading e i hadvance =>
    -- the streams refuse nothing, so that this is a step of the session
    have hgoing := Source.Reading.isFinished_of_advance? hadvance
    have hsession := Source.Session.Step.advance (s := ⟨f.reading, .ongoing, true, log.emitted⟩) i
      f.offer (fun e he => absurd he (h.offer_ne_refused hwired hgoing e)) (hscope ▸ hadvance)
    rw [close_eq, emitAny_eq]
    refine ⟨h.ongoing, h.alive, ?_, h.session.tail hsession, ?_⟩
    · intro w hw hgone
      have hfinished := (h.ended w hw hgone).2
      rw [hgoing] at hfinished
      cases hfinished
    · rw [Log.rejections_extend, Log.accounted_extend_none, h.rejections, List.append_assoc]
  | @givesUp reading i hquit =>
    rw [Source.Reading.quit?_of_ongoing h.ongoing] at hquit
    cases hquit
  | @works move pool hstep =>
    rcases Pool.step?_cases hstep with ⟨_, i, w, w', q, hw, hmove, rfl⟩ | ⟨_, _, rfl⟩
    · -- whoever ends here found no records and a closed stream
      have hafter := hmove.isGone_after h.ongoing hdecides
      have hset : ∀ w₁ ∈ (q.place i w').workers, w₁ ∈ f.pool.workers ∨ w₁ = w' := by
        intro w₁ hw₁
        rw [hmove.alike.workers_place] at hw₁
        exact List.mem_or_eq_of_mem_set hw₁
      refine ⟨hongoing, ?_, ?_, hquiet _, ?_⟩
      · intro w₁ hw₁
        rcases hset w₁ hw₁ with hw₁ | rfl
        · exact h.alive w₁ hw₁
        · exact hafter.1
      · intro w₁ hw₁ hgone
        rcases hset w₁ hw₁ with hw₁ | rfl
        · rcases h.ended w₁ hw₁ hgone with ⟨hqueue, hfinished⟩
          exact ⟨hmove.queue_eq_nil hqueue, hfinished⟩
        · rcases hafter.2 hgone with ⟨hqueue, hclosed⟩
          exact ⟨hmove.queue_eq_nil hqueue, hwired.closed.symm.trans hclosed⟩
      · rw [hsilent, Log.accounted_extend_none]
        exact h.rejections
    · refine ⟨hongoing, h.alive, h.ended, hquiet _, ?_⟩
      rw [hsilent, Log.accounted_extend_none]
      exact h.rejections
  | takesResult | takesForwarded =>
    refine ⟨hongoing, h.alive, h.ended, hquiet _, ?_⟩
    rw [hsilent, h.rejections]
    simp [Log.extend, account, Event.reading?]
  | takesRejection time hqueue =>
    refine ⟨hongoing, h.alive, h.ended, hquiet _, ?_⟩
    rw [hsilent, h.rejections, hqueue]
    simp [Log.extend, account, Event.reading?]
  | escalates | stops => cases hongoing

/-- Along a trace that does not end cancelled the flow is undisturbed. -/
theorem Trace.undisturbed (hdecides : ∀ n r, (handler.answer n false r).verdict ≠ .crashed)
    (h : Trace handler f log g) (hwired : f.Wired)
    (hstart : f.Undisturbed options sources .empty) (hongoing : g.pool.scope.cancelled = false) :
    g.Undisturbed options sources log := by
  refine h.induction (P := fun log g => g.pool.scope.cancelled = false →
    g.Undisturbed options sources log) (fun _ => hstart) ?_ hongoing
  intro log g m e event h htrace hturn ih hongoing
  exact (ih (hturn.was_ongoing hongoing)).turn hdecides (htrace.wired hwired) hturn hongoing

/-! ## Weights -/

section Weights

variable {M : Type u} [AddCancelCommMonoid M] {scale : Scale M}

/-- The weight of the records of an emission. -/
def emissionWeight (scale : Scale M) (e : Option (Nat × Source.Emission)) : M :=
  ((e.bind fun e => e.2.record?).toList.map scale.record).sum

/-- The weight of what an event takes from the pool. -/
def eventWeight (scale : Scale M) (event : Option (Moment × Event)) : M :=
  (event.toList.map fun e => e.2.weight scale).sum

/-- A turn in which no worker moves adds to the pool what is emitted, and takes from it what is
accounted for. -/
theorem Turns.weight_of_ne_worker (h : f.Turns handler move e event g)
    (hquiet : ∀ m, move ≠ .worker m) :
    g.pool.weight scale + eventWeight scale event =
      f.pool.weight scale + emissionWeight scale e := by
  -- what leaves one stream enters another one, or the accounts
  cases h with
  | @reads reading e i _ =>
    rw [close_eq, emitAny_eq]
    cases e with
    | none => simp [Pool.weight, Pool.streamWeight, eventWeight, emissionWeight]
    | some e =>
      simp only [Pool.weight, Pool.streamWeight, eventWeight, emissionWeight, Option.bind_some,
        Option.map_some, List.map_append, List.sum_append, Option.toList_none, List.map_nil,
        List.sum_nil]
      abel
  | givesUp =>
    rw [close_eq]
    rfl
  | @works m => exact absurd rfl (hquiet m)
  | takesResult time hqueue =>
    simp only [Pool.weight, Pool.streamWeight, eventWeight, emissionWeight, account, hqueue,
      Event.weight, Option.toList_some, Option.bind_none, Option.toList_none, List.map_cons,
      List.map_nil, List.sum_cons, List.sum_nil]
    abel
  | takesRejection time hqueue =>
    simp [Pool.weight, Pool.streamWeight, eventWeight, emissionWeight, account, Event.weight]
  | takesForwarded time hqueue =>
    simp only [Pool.weight, Pool.streamWeight, eventWeight, emissionWeight, account, hqueue,
      Event.weight, Option.toList_some, Option.bind_none, Option.toList_none, List.map_cons,
      List.map_nil, List.sum_cons, List.sum_nil]
    abel
  | escalates | stops => rfl

/-- A turn adds to the pool what is emitted, and takes from it what is accounted for. -/
theorem Turns.weight (hfits : scale.Fits handler) (hongoing : f.pool.scope.cancelled = false)
    (h : f.Turns handler move e event g) :
    g.pool.weight scale + eventWeight scale event =
      f.pool.weight scale + emissionWeight scale e := by
  by_cases hworks : ∃ m, move = .worker m
  · rcases hworks with ⟨m, rfl⟩
    cases h with
    | works hstep => rw [Pool.weight_step hfits hongoing hstep]; rfl
  · exact h.weight_of_ne_worker fun m hm => hworks ⟨m, hm⟩

/-- An emission adds its weight to the log. -/
theorem sum_records_extend (scale : Scale M) (log : Log) (e : Option (Nat × Source.Emission))
    (event : Option (Moment × Event)) :
    ((log.extend e event).records.map scale.record).sum =
      (log.records.map scale.record).sum + emissionWeight scale e := by
  rcases e with _ | ⟨i, e⟩
  · simp [Log.records, Log.emitted_extend_none, emissionWeight]
  · have hextend := Log.records_extend log i (some e) event
    rw [Option.map_some] at hextend
    rw [hextend, List.map_append, List.sum_append]
    rfl

/-- What was emitted is in the pool or with the accounts. -/
theorem Trace.weighs (hfits : scale.Fits handler) (h : Trace handler f log g)
    (hstart : f.pool.weight scale = 0) (hongoing : g.pool.scope.cancelled = false) :
    (log.records.map scale.record).sum =
      g.pool.weight scale + (log.accounted.map fun e => e.2.weight scale).sum := by
  refine h.induction (P := fun log g => g.pool.scope.cancelled = false →
    (log.records.map scale.record).sum =
      g.pool.weight scale + (log.accounted.map fun e => e.2.weight scale).sum) ?_ ?_ hongoing
  · intro _
    simp [Log.empty, Log.records, hstart]
  · intro log g m e event h htrace hturn ih hongoing
    have hbefore := hturn.was_ongoing hongoing
    have hweight := hturn.weight hfits hbefore
    rw [sum_records_extend, ih hbefore, Log.extend, List.map_append, List.sum_append, ← eventWeight]
    calc g.pool.weight scale + (log.accounted.map fun e => e.2.weight scale).sum +
          emissionWeight scale e
        = g.pool.weight scale + emissionWeight scale e +
            (log.accounted.map fun e => e.2.weight scale).sum := by abel
      _ = h.pool.weight scale + ((log.accounted.map fun e => e.2.weight scale).sum +
            eventWeight scale event) := by
          rw [← hweight]
          abel

end Weights

end Flow

/-! ## The launch -/

namespace Run

variable (options : RunOptions) (output : Output) (files : Files) (created start : Instant)

theorem undisturbed_launch :
    ((ofOptions options output created).launch files start).Undisturbed options.reading
      (Source.openAll options.reading files options.sources) .empty := by
  have hinitial : ∀ w ∈ List.replicate options.pool.workerCount Worker.initial, w = .initial :=
    fun w hw => List.eq_of_mem_replicate hw
  rw [launch_eq_close, Flow.close_eq]
  refine ⟨rfl, ?_, ?_, .refl, rfl⟩
  · intro w hw
    rw [hinitial w hw]
    simp [Worker.initial]
  · intro w hw hgone
    rw [hinitial w hw] at hgone
    cases hgone

/-- A pool weighs nothing at the start of a run, if counters at zero do not. -/
theorem weight_launch {M : Type u} [AddCommMonoid M] {scale : Scale M}
    (hzero : scale.counters 0 0 = 0) :
    ((ofOptions options output created).launch files start).pool.weight scale = 0 := by
  have hworkers : ((List.replicate options.pool.workerCount Worker.initial).map
      (Worker.weight scale)).sum = 0 := by
    simp [Worker.weight, Worker.initial, Phase.weight, hzero]
  rw [launch_eq_close, Flow.close_eq]
  simpa [Pool.weight, Pool.streamWeight, prepared, Pool.ofOptions, Channel.empty] using hworkers

end Run
end RecordFlow
