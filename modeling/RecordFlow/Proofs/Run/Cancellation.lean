import RecordFlow.Proofs.Run.Failures
import RecordFlow.Proofs.Source.Supply

/-!
# Cancellation — what still happens in a run that is cancelled

Workers and sources look at the scope before each step that matters, and what they do between two
looks they may still do when the scope is cancelled behind the first one.  A worker that waits for a
permit may get one and call the processor, and a result or an emission that is being sent may still
be taken; nothing else is.

* `Act` is what the parts of a flow do that others see, `Flow.acts` what some moves do,
* `Flow.Turns.winds` is what one move of a cancelled flow can do, `Flow.winds_of_run` what any
  number of moves can,
* `Flow.Trace.supply` says, cancelled or not, that sources emit rows, and none of them twice,
* `Run.cancellation_is_prompt` is both, for a run from its launch.
-/

namespace RecordFlow

/-! ## Acts -/

/-- What a worker or a source does that others see: a worker calls the processor or puts a result on
its stream, or a source puts an emission on one. -/
inductive Act where
  | calls (worker : Nat) (call : Call)
  | delivers (worker : Nat) (result : Result)
  | emits (source : Nat) (e : Source.Emission)

namespace Act

def call? : Act → Option Call
  | .calls _ c => some c
  | _ => none

def calledBy (i : Nat) : Act → Option Record
  | .calls j c => if j = i then some c.record else none
  | _ => none

def deliveredBy (i : Nat) : Act → Option Result
  | .delivers j result => if j = i then some result else none
  | _ => none

def emittedBy (i : Nat) : Act → Option Source.Emission
  | .emits j e => if j = i then some e else none
  | _ => none

end Act

/-! ## What has begun -/

/-- The record of a worker that will not look at the scope again before it calls the processor. -/
def Worker.due? (w : Worker) : Option Record :=
  match w.phase with
  | .waiting r | .processing r => some r
  | _ => none

def Worker.sending? (w : Worker) : Option Result :=
  match w.phase with
  | .sending result => some result
  | _ => none

def Source.Task.sending? : Source.Task → Option Source.Emission
  | .sending e _ => some e
  | _ => none

/-- A worker that moves under a cancelled scope does not come to be due or to send.  What it may
have called the processor for it was due for before. -/
theorem Worker.Moves.winds {handler : Handler} {p q : Pool} {w w' : Worker}
    (hmove : w.Moves handler p w' q) (hcancelled : p.scope.cancelled = true) :
    (w.processing?.toList ++ w'.due?.toList).Sublist w.due?.toList ∧ w'.sending? = none := by
  cases hmove with
  | looks hphase | holds hphase | requests hphase | offers hphase =>
    -- the look at the scope is the last thing that it does
    rw [if_pos hcancelled]
    simp [processing?, due?, sending?, enter, hphase]
  | decides hphase _ =>
    cases hsemaphore : p.semaphore <;> simp [processing?, due?, sending?, enter, hphase]
  | takes hphase | leaves hphase | acquires hphase | crashes hphase | releases hphase
  | sends hphase =>
    simp [processing?, due?, sending?, enter, hphase]
  | quits _ hwaiting =>
    -- whoever waits is not in the processor
    cases hphase : w.phase <;> simp_all [Pool.isWaiting, processing?, due?, sending?, enter]

/-- A source that moves under a cancelled scope does not begin to send, and emits nothing but what
it was sending. -/
theorem Source.Task.Moves.winds {options : Source.Options} {known : Source.Agreement}
    {offer : Source.Emission → Offer} {t t' : Source.Task} {slot : Option Source.Slot}
    {e : Option Source.Emission} (hmove : t.Moves options true known offer t' slot e) :
    (e.toList ++ t'.sending?.toList).Sublist t.sending?.toList := by
  cases hmove with
  | looks rest => cases rest <;> exact List.Sublist.refl _
  | offers e rest => cases e <;> exact List.Sublist.refl _
  | @delivers e rest _ => cases e <;> exact List.Sublist.refl _
  | @loses e | @quits e => cases e <;> exact List.nil_sublist _
  | _ => exact List.Sublist.refl _

namespace Pool

variable {handler : Handler} {p p' : Pool} {move : Move}

def delivery? (p : Pool) : Move → Option Result
  | .advance i => p.workers[i]?.bind Worker.sending?
  | _ => none

/-- Results come on the stream by the steps that deliver them, and by no other. -/
theorem results_of_step? (h : p.step? handler move = some p') :
    p'.results.queue = p.results.queue ++ (p.delivery? move).toList := by
  cases move with
  | advance i =>
    have hadvance := (advance?_of_step? h).2
    rcases advance?_cases hadvance with ⟨w, w', q, hw, hmove, rfl⟩
    cases hsending : w.sending? with
    | none =>
      have hsame : q.results.queue = p.results.queue := by
        cases hmove with
        | sends hphase _ => simp [Worker.sending?, hphase] at hsending
        | _ => rfl
      simpa [delivery?, hw, hsending, place] using hsame
    | some result =>
      -- whoever sends goes on only when the stream takes the result
      have hphase : w.phase = .sending result := by
        unfold Worker.sending? at hsending
        split at hsending <;> simp_all
      cases hoffer : p.results.offer with
      | accepted =>
        have hnext : { p with results := p.results.push result }.setPhase i .idle =
            q.place i w' := by
          simpa [advance?, hw, hphase, hoffer] using hadvance
        rw [← hnext]
        simp [delivery?, hw, hsending, setPhase]
      | full | refused => simp [advance?, hw, hphase, hoffer] at hadvance
  | quit i =>
    rcases Option.bind_eq_some_iff.1 (quit?_of_step? h).2 with ⟨w, _, hleaves⟩
    have hleaves : (p.scope.cancelled = true ∧ isWaiting w = true) ∧
        p.setPhase i .exited = p' := by simpa using hleaves
    rw [← hleaves.2]
    simp [delivery?, setPhase]
  | retire =>
    rw [(retire_of_step? h).2.2]
    simp [delivery?]

end Pool

namespace Flow

variable {handler : Handler} {f g h : Flow} {move : Move} {log : Log} {calls : List Call}
  {e : Option (Nat × Source.Emission)} {event : Option (Moment × Event)}

/-- The act that a move consists in, if others see anything of it. -/
def act? (handler : Handler) (f : Flow) : Move → Option Act
  | .worker (.advance i) =>
    ((f.pool.call? handler (.advance i)).map (Act.calls i)).or
      ((f.pool.delivery? (.advance i)).map (Act.delivers i))
  | .source i => (f.emission? (.source i)).map fun e => .emits e.1 e.2
  | _ => none

def run (handler : Handler) (f : Flow) (moves : List Move) : Option Flow :=
  moves.foldlM (step? handler) f

def acts (handler : Handler) : Flow → List Move → List Act
  | _, [] => []
  | f, move :: rest =>
    (f.act? handler move).toList ++
      match f.step? handler move with
      | some g => acts handler g rest
      | none => []

theorem run_cons_cases {rest : List Move} (hrun : f.run handler (move :: rest) = some h) :
    ∃ g, f.step? handler move = some g ∧ g.run handler rest = some h ∧
      f.acts handler (move :: rest) =
        (f.act? handler move).toList ++ g.acts handler rest := by
  rcases Option.bind_eq_some_iff.1 hrun with ⟨g, hstep, hrest⟩
  exact ⟨g, hstep, hrest, by rw [acts, hstep]⟩

theorem call?_act? (handler : Handler) (f : Flow) (move : Move) :
    (f.act? handler move).bind Act.call? = f.call? handler move := by
  cases move with
  | worker move =>
    cases move with
    | advance i =>
      cases hcall : f.pool.call? handler (.advance i) with
      | some c => simp [act?, call?, hcall, Act.call?]
      | none =>
        cases hdelivery : f.pool.delivery? (.advance i) <;>
          simp [act?, call?, hcall, hdelivery, Act.call?]
    | quit | retire => rfl
  | source i =>
    cases hemission : f.emission? (.source i) <;> simp [act?, hemission, call?, Act.call?]
  | _ => rfl

/-- The calls among the acts are those of the processor. -/
theorem exists_called_of_run {f₀ : Flow} {moves : List Move}
    (hcalled : f₀.Called handler log calls f) (hrun : f.run handler moves = some g) :
    ∃ log', f₀.Called handler log'
      (calls ++ (f.acts handler moves).filterMap Act.call?) g := by
  induction moves generalizing f log calls with
  | nil =>
    cases hrun
    exact ⟨log, by simpa [acts] using hcalled⟩
  | cons move rest ih =>
    rcases run_cons_cases hrun with ⟨next, hstep, hrest, hacts⟩
    rcases ih (.move move hcalled hstep) hrest with ⟨log', hlater⟩
    refine ⟨log', ?_⟩
    have hfirst : (f.act? handler move).toList.filterMap Act.call? =
        (f.call? handler move).toList := by
      rw [← call?_act?]
      cases f.act? handler move with
      | none => rfl
      | some act => cases hact : act.call? <;> simp [hact]
    rw [hacts, List.filterMap_append, hfirst, ← List.append_assoc]
    exact hlater

/-! ## Winding down -/

def due? (f : Flow) (i : Nat) : Option Record := f.pool.workers[i]?.bind Worker.due?

def delivering? (f : Flow) (i : Nat) : Option Result := f.pool.workers[i]?.bind Worker.sending?

def emitting? (f : Flow) (i : Nat) : Option Source.Emission :=
  f.reading.tasks[i]?.bind Source.Task.sending?

/-- Nothing is begun between two states: what is called, delivered or emitted between them, and what
is still to be in the end, had begun at the start. -/
structure Winds (acts : List Act) (f g : Flow) : Prop where
  called : ∀ i, (acts.filterMap (Act.calledBy i) ++ (g.due? i).toList).Sublist (f.due? i).toList
  delivered : ∀ i, (acts.filterMap (Act.deliveredBy i) ++ (g.delivering? i).toList).Sublist
    (f.delivering? i).toList
  emitted : ∀ i, (acts.filterMap (Act.emittedBy i) ++ (g.emitting? i).toList).Sublist
    (f.emitting? i).toList

theorem Winds.refl (f : Flow) : Winds [] f f :=
  ⟨fun _ => List.Sublist.refl _, fun _ => List.Sublist.refl _, fun _ => List.Sublist.refl _⟩

theorem Winds.trans {before after : List Act} (hfg : Winds before f g) (hgh : Winds after g h) :
    Winds (before ++ after) f h := by
  have happend : ∀ {α : Type} (pick : Act → Option α) {x y z : List α},
      (before.filterMap pick ++ y).Sublist x → (after.filterMap pick ++ z).Sublist y →
      ((before ++ after).filterMap pick ++ z).Sublist x := by
    intro α pick x y z hx hy
    rw [List.filterMap_append, List.append_assoc]
    exact ((List.append_sublist_append_left _).2 hy).trans hx
  exact ⟨fun i => happend _ (hfg.called i) (hgh.called i),
    fun i => happend _ (hfg.delivered i) (hgh.delivered i),
    fun i => happend _ (hfg.emitted i) (hgh.emitted i)⟩

/-- What changes neither a worker nor a source begins nothing. -/
theorem Winds.of_same (hworkers : g.pool.workers = f.pool.workers)
    (htasks : g.reading.tasks = f.reading.tasks) : Winds [] f g := by
  refine ⟨fun i => ?_, fun i => ?_, fun i => ?_⟩
  · simp [due?, hworkers]
  · simp [delivering?, hworkers]
  · simp [emitting?, htasks]

/-- A move of one worker winds down if the worker does. -/
theorem Winds.of_worker {i : Nat} {w w' : Worker} {call : Option Call} {result : Option Result}
    (hw : f.pool.workers[i]? = some w) (hworkers : g.pool.workers = f.pool.workers.set i w')
    (htasks : g.reading.tasks = f.reading.tasks)
    (hdue : ((call.map Call.record).toList ++ w'.due?.toList).Sublist w.due?.toList)
    (hsending : (result.toList ++ w'.sending?.toList).Sublist w.sending?.toList)
    (hone : call = none ∨ result = none) :
    Winds ((call.map (Act.calls i)).or (result.map (Act.delivers i))).toList f g := by
  refine ⟨fun j => ?_, fun j => ?_, fun j => ?_⟩
  · have hcalled : ((call.map (Act.calls i)).or (result.map (Act.delivers i))).toList.filterMap
        (Act.calledBy j) = (if i = j then call.map Call.record else none).toList := by
      by_cases hij : i = j <;> cases call <;> cases result <;> simp [Act.calledBy, hij]
    rw [hcalled, due?, hworkers]
    exact sublist_bind_set hw hdue j
  · have hdelivered : ((call.map (Act.calls i)).or (result.map (Act.delivers i))).toList.filterMap
        (Act.deliveredBy j) = (if i = j then result else none).toList := by
      -- a call would be the act instead of the delivery
      rcases hone with rfl | rfl
      · by_cases hij : i = j <;> cases result <;> simp [Act.deliveredBy, hij]
      · cases call <;> simp [Act.deliveredBy]
    rw [hdelivered, delivering?, hworkers]
    exact sublist_bind_set hw hsending j
  · have hemitted : ((call.map (Act.calls i)).or (result.map (Act.delivers i))).toList.filterMap
        (Act.emittedBy j) = [] := by
      cases call <;> cases result <;> rfl
    rw [hemitted, List.nil_append, emitting?, emitting?, htasks]

/-- A move of one source winds down if the source does. -/
theorem Winds.of_source {i : Nat} {t t' : Source.Task} {e : Option Source.Emission}
    (ht : f.reading.tasks[i]? = some t) (htasks : g.reading.tasks = f.reading.tasks.set i t')
    (hworkers : g.pool.workers = f.pool.workers)
    (hsending : (e.toList ++ t'.sending?.toList).Sublist t.sending?.toList) :
    Winds (e.map (Act.emits i)).toList f g := by
  refine ⟨fun j => ?_, fun j => ?_, fun j => ?_⟩
  · rw [due?, due?, hworkers]
    cases e <;> simp [Act.calledBy]
  · rw [delivering?, delivering?, hworkers]
    cases e <;> simp [Act.deliveredBy]
  · have hemitted : (e.map (Act.emits i)).toList.filterMap (Act.emittedBy j) =
        (if i = j then e else none).toList := by
      by_cases hij : i = j <;> cases e <;> simp [Act.emittedBy, hij]
    rw [hemitted, emitting?, htasks]
    exact sublist_bind_set ht hsending j

theorem winds_of_pool {m : Pool.Move} {pool : Pool} (hcancelled : f.pool.scope.cancelled = true)
    (hstep : f.pool.step? handler m = some pool) :
    Winds (f.act? handler (.worker m)).toList f { f with pool } := by
  cases m with
  | advance i =>
    rcases Pool.advance?_cases (Pool.advance?_of_step? hstep).2 with ⟨w, w', q, hw, hmove, rfl⟩
    rcases hmove.winds hcancelled with ⟨hdue, hnone⟩
    have hact : f.act? handler (.worker (.advance i)) =
        ((w.call? handler f.pool).map (Act.calls i)).or
          (w.sending?.map (Act.delivers i)) := by
      simp [act?, Pool.call?, Pool.delivery?, hw]
    have hrecord : (w.call? handler f.pool).map Call.record = w.processing? := by
      cases hphase : w.phase <;> simp [Worker.call?, Worker.processing?, hphase]
    have hworkers := hmove.alike.workers_place i w'
    rw [hact]
    refine Winds.of_worker hw hworkers rfl ?_ ?_ ?_
    · rw [hrecord]
      exact hdue
    · simp [hnone]
    · -- it calls the processor or delivers, as its phase has it
      cases hphase : w.phase <;>
        simp [Worker.call?, Worker.processing?, Worker.sending?, hphase]
  | quit i =>
    have hcases : ∃ (w w' : Worker) (q : Pool), f.pool.workers[i]? = some w ∧
        w.Moves handler f.pool w' q ∧ pool = q.place i w' :=
      Pool.quit?_cases (Pool.quit?_of_step? hstep).2
    rcases hcases with ⟨w, w', q, hw, hmove, rfl⟩
    rcases hmove.winds hcancelled with ⟨hdue, hnone⟩
    have hworkers := hmove.alike.workers_place i w'
    change Winds (((none : Option Call).map (Act.calls i)).or
      ((none : Option Result).map (Act.delivers i))).toList f _
    refine Winds.of_worker hw hworkers rfl ((List.sublist_append_right _ _).trans hdue) ?_
      (.inl rfl)
    simp [hnone]
  | retire =>
    rw [(Pool.retire_of_step? hstep).2.2]
    exact .of_same rfl rfl

theorem winds_of_step? (hcancelled : f.pool.scope.cancelled = true)
    (hstep : f.step? handler move = some g) : Winds (f.act? handler move).toList f g := by
  have hturn := turns_of_step? hstep
  generalize f.emission? move = emitted at hturn
  generalize f.event? move = event at hturn
  cases hturn with
  | @reads reading e i hadvance =>
    rcases Source.Reading.advance?_cases hadvance with ⟨t, t', slot, ht, hmove, rfl⟩
    rw [hcancelled] at hmove
    have hact : f.act? handler (.source i) = e.map (Act.emits i) := by
      cases e <;> simp [act?, emission?, hadvance]
    rw [close_eq, emitAny_eq, hact]
    exact Winds.of_source ht rfl rfl hmove.winds
  | @givesUp reading i hquit =>
    rcases Source.Reading.quit?_cases (fun _ => .full) hquit with ⟨t, t', slot, ht, hmove, rfl⟩
    rw [hcancelled] at hmove
    rw [close_eq]
    change Winds ((none : Option Source.Emission).map (Act.emits i)).toList f _
    exact Winds.of_source ht rfl rfl hmove.winds
  | works hpool => exact winds_of_pool hcancelled hpool
  | takesResult | takesRejection | takesForwarded | escalates | stops => exact .of_same rfl rfl

/-- In a cancelled flow nothing is begun, however many moves there are. -/
theorem winds_of_run {moves : List Move} (hcancelled : f.pool.scope.cancelled = true)
    (hrun : f.run handler moves = some g) : Winds (f.acts handler moves) f g := by
  induction moves generalizing f with
  | nil =>
    cases hrun
    exact .refl _
  | cons move rest ih =>
    rcases run_cons_cases hrun with ⟨next, hstep, hrest, hacts⟩
    rw [hacts]
    exact (winds_of_step? hcancelled hstep).trans
      (ih ((turns_of_step? hstep).cancelled hcancelled) hrest)

/-! ## Streams -/

/-- A result that a step brings on the stream is one that the step delivers. -/
theorem delivers_of_step? (hstep : f.step? handler move = some g) {result : Result}
    (hresult : result ∈ g.pool.results.queue) :
    result ∈ f.pool.results.queue ∨ ∃ i, f.act? handler move = some (.delivers i result) := by
  have hturn := turns_of_step? hstep
  generalize f.emission? move = emitted at hturn
  generalize f.event? move = event at hturn
  cases hturn with
  | reads =>
    rw [close_eq, emitAny_eq] at hresult
    exact .inl hresult
  | givesUp =>
    rw [close_eq] at hresult
    exact .inl hresult
  | @works move pool hpool =>
    rw [Pool.results_of_step? hpool, List.mem_append] at hresult
    rcases hresult with hbefore | hnew
    · exact .inl hbefore
    · -- only the step of a worker that sends delivers anything
      cases move with
      | quit | retire => cases hnew
      | advance i =>
        have hdelivery : f.pool.delivery? (.advance i) = some result := Option.mem_toList.1 hnew
        rcases Option.bind_eq_some_iff.1 hdelivery with ⟨w, hw, hsending⟩
        have hcall : f.pool.call? handler (.advance i) = none := by
          cases hphase : w.phase <;>
            simp_all [Pool.call?, Worker.call?, Worker.processing?, Worker.sending?]
        exact .inr ⟨i, by simp [act?, hcall, hdelivery]⟩
  | takesResult time hqueue => exact .inl (hqueue ▸ List.mem_cons_of_mem _ hresult)
  | takesRejection | takesForwarded | escalates | stops => exact .inl hresult

theorem delivers_of_run {moves : List Move} (hrun : f.run handler moves = some g)
    {result : Result} (hresult : result ∈ g.pool.results.queue) :
    result ∈ f.pool.results.queue ∨
      ∃ i, result ∈ (f.acts handler moves).filterMap (Act.deliveredBy i) := by
  induction moves generalizing f with
  | nil =>
    cases hrun
    exact .inl hresult
  | cons move rest ih =>
    rcases run_cons_cases hrun with ⟨next, hstep, hrest, hacts⟩
    rw [hacts]
    rcases ih hrest with hbefore | ⟨i, hlater⟩
    · rcases delivers_of_step? hstep hbefore with hbefore | ⟨i, hact⟩
      · exact .inl hbefore
      · exact .inr ⟨i, by simp [hact, Act.deliveredBy]⟩
    · exact .inr ⟨i, by simp [hlater]⟩

/-- What the sources emit is taken from their supply, whether or not they are disturbed. -/
theorem Trace.supply (htrace : Trace handler f log g) :
    (log.records : Multiset Record) + g.reading.supply ≤ f.reading.supply := by
  refine htrace.induction (P := fun log g =>
    (log.records : Multiset Record) + g.reading.supply ≤ f.reading.supply) ?_ ?_
  · exact (zero_add f.reading.supply).le
  · intro log g m e event h _ hturn ih
    have hsilent : ∀ event, (log.extend none event).records = log.records := by
      intro event
      rw [Log.records, Log.emitted_extend_none, Log.records]
    cases hturn with
    | @reads reading e i hadvance =>
      have htaken := Source.Reading.supply_of_advance? hadvance
      rw [close_eq, emitAny_eq, Log.records_extend, ← Multiset.coe_add, add_assoc]
      exact (add_le_add le_rfl htaken).trans ih
    | givesUp i hquit =>
      have hless := Source.Reading.supply_of_quit? hquit
      rw [close_eq, hsilent]
      exact (add_le_add le_rfl hless).trans ih
    | works | takesResult | takesRejection | takesForwarded | escalates | stops =>
      rw [hsilent]
      exact ih

end Flow

namespace Run

/-- The records of all rows of the sources of a run. -/
def everyRow (options : RunOptions) (files : Files) : List Record :=
  (opened options files).flatMap Source.rowsOf

/-- In any run, cancelled or not, the processor is called for rows of the sources, and for each of
them once at most. -/
theorem called_rows {handler : Handler} {options : RunOptions} {output : Output} {files : Files}
    {created start : Instant} {log : Log} {calls : List Call} {f : Flow}
    (hcalled : ((ofOptions options output created).launch files start).Called handler log
      calls f) :
    (calls.map Call.record).Subperm (everyRow options files) := by
  have hlaunch := reading_launch options output files created start
  have hemitted : log.records.Subperm (everyRow options files) := by
    apply Multiset.coe_le.1
    calc (log.records : Multiset Record)
        ≤ (log.records : Multiset Record) + f.reading.supply := Multiset.le_add_right _ _
      _ ≤ (Source.Reading.ofSources options.reading (opened options files)).supply :=
          hlaunch ▸ hcalled.trace.supply
      _ ≤ (everyRow options files : Multiset Record) :=
          Source.Reading.supply_ofSources_le _ _
  exact (collectedOnce_of_called hcalled).called.trans hemitted

/-- Whatever its processor does and in whichever order its parts move, a run calls the processor for
each row of its sources once at most.  Once it is cancelled, nothing begins any more:

* a worker calls the processor once more at most, and only for a record that it had and for which it
  had got as far as to ask for a permit,
* a result comes on its stream only if it was being sent, and a source emits only what it was
  sending; neither a worker nor a source begins to send. -/
theorem cancellation_is_prompt (handler : Handler) (options : RunOptions) (output : Output)
    (files : Files) (created start : Instant) {before : List Flow.Move} {f : Flow}
    (hbefore : ((ofOptions options output created).launch files start).run handler before =
      some f) :
    (((((ofOptions options output created).launch files start).acts handler before).filterMap
      Act.call?).map Call.record).Subperm (everyRow options files) ∧
    (f.pool.scope.cancelled = true → ∀ after g, f.run handler after = some g →
      Flow.Winds (f.acts handler after) f g ∧
      (∀ i, ((f.acts handler after).filterMap (Act.calledBy i)).length ≤ 1) ∧
      (∀ result ∈ g.pool.results.queue,
        result ∈ f.pool.results.queue ∨ ∃ i, f.delivering? i = some result) ∧
      ∀ i e, g.emitting? i = some e → f.emitting? i = some e) := by
  constructor
  · rcases Flow.exists_called_of_run .start hbefore with ⟨log, hcalled⟩
    exact called_rows hcalled
  · intro hcancelled after g hafter
    have hwinds := Flow.winds_of_run hcancelled hafter
    refine ⟨hwinds, ?_, ?_, ?_⟩
    · intro i
      have hcalls := ((List.sublist_append_left _ _).trans (hwinds.called i)).length_le
      exact hcalls.trans Option.length_toList_le
    · intro result hresult
      rcases Flow.delivers_of_run hafter hresult with hwas | ⟨i, hdelivered⟩
      · exact .inl hwas
      · have hmem := (hwinds.delivered i).subset (List.mem_append_left _ hdelivered)
        exact .inr ⟨i, Option.mem_toList.1 hmem⟩
    · intro i e hsends
      have hmem := (hwinds.emitted i).subset
        (List.mem_append_right _ (Option.mem_toList.2 hsends))
      exact Option.mem_toList.1 hmem

/-- The first worker of the sample run has the first record in the processor, and the first source
is about to send its next emission, when the run is stopped. -/
def movesBefore : List Flow.Move :=
  List.replicate 5 (.source 0) ++ List.replicate 5 (.worker (.advance 0)) ++
    List.replicate 2 (.source 0) ++ [.stop]

/-- Both do what they had begun, and end. -/
def movesAfter : List Flow.Move :=
  List.replicate 3 (.source 0) ++ List.replicate 3 (.worker (.advance 0))

def sampleLaunch : Flow := (ofOptions sampleOptions .none default).launch sampleFiles default

theorem cancellation_is_prompt_sampleLaunch :
    ∃ f g, sampleLaunch.run moody movesBefore = some f ∧ f.run moody movesAfter = some g ∧
      (f.acts moody movesAfter).filterMap (Act.calledBy 0) =
        [⟨2, "a", ["1", "x"], some ["i", "n"]⟩] ∧
      f.due? 0 = some ⟨2, "a", ["1", "x"], some ["i", "n"]⟩ ∧
      ((f.acts moody movesAfter).filterMap (Act.emittedBy 0)).length = 1 ∧
      (∀ i, ((f.acts moody movesAfter).filterMap (Act.calledBy i)).length ≤ 1) ∧
      ∀ i, (g.emitting? i).isSome = true → (f.emitting? i).isSome = true := by
  have hends : (sampleLaunch.run moody movesBefore).bind (fun f =>
      (f.run moody movesAfter).map fun g => (f.pool.scope.cancelled,
        (f.acts moody movesAfter).filterMap (Act.calledBy 0),
        ((f.acts moody movesAfter).filterMap (Act.emittedBy 0)).length)) =
      some (true, [⟨2, "a", ["1", "x"], some ["i", "n"]⟩], 1) := by
    decide +kernel
  rcases Option.bind_eq_some_iff.1 hends with ⟨f, hbefore, hrest⟩
  rcases Option.map_eq_some_iff.1 hrest with ⟨g, hafter, hstate⟩
  simp only [Prod.mk.injEq] at hstate
  rcases hstate with ⟨hcancelled, hcalls, hemissions⟩
  rcases (cancellation_is_prompt moody sampleOptions .none sampleFiles default default hbefore).2
    hcancelled _ _ hafter with ⟨hwinds, honce, _, hsends⟩
  have hdue := ((List.sublist_append_left _ _).trans (hwinds.called 0)).subset
    (hcalls ▸ List.mem_singleton_self _)
  refine ⟨f, g, hbefore, hafter, hcalls, Option.mem_toList.1 hdue, hemissions, honce, ?_⟩
  intro i hsome
  rcases Option.isSome_iff_exists.1 hsome with ⟨e, he⟩
  rw [hsends i e he]
  rfl

end Run
end RecordFlow
