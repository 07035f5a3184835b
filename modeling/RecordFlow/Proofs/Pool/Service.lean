import RecordFlow.Proofs.Pool.Calls
import RecordFlow.Proofs.Pool.Progress

/-!
# Service — a pool between a sender and its consumers

A pool is put to work on a finite number of records.  A sender hands them over one by one and closes
the stream behind the last, and consumers take results and errors off their streams; each of them,
like each worker, moves when it likes.  For any order of these moves, as long as the processor does
not break off and nobody cancels the scope:

* `Service.Sound` lists what holds at all times,
* `Service.Sound.exists_move`: who has not finished can go on,
* `Service.work_run`: not for ever.
-/

namespace RecordFlow

/-- A pool at work: what its sender has left, and what its consumers have taken. -/
structure Service where
  waiting : List Record
  pool : Pool
  results : List Result
  errors : List RecordError

namespace Service

/-- A pool that has just been started, with a sender that has all records left. -/
def ofRecords (options : PoolOptions) (capacity : Nat) (records : List Record) : Service :=
  ⟨records, (Pool.ofOptions options .ongoing (.empty capacity)).start.1, [], []⟩

/-! ## Moves -/

inductive Move where
  /-- The sender hands over its next record. -/
  | feed
  /-- The sender has no record left and closes the stream. -/
  | close
  | work (move : Pool.Move)
  | takeResult
  | takeError
deriving DecidableEq, Repr

def feed? (s : Service) : Option Service :=
  match s.waiting with
  | [] => none
  | r :: rest =>
    match s.pool.input.handOver s.pool.scope r with
    | .delivered input => some { s with waiting := rest, pool := { s.pool with input } }
    | _ => none

def close? (s : Service) : Option Service :=
  if s.waiting.isEmpty && !s.pool.input.closed then some { s with pool.input.closed := true }
  else none

def takeResult? (s : Service) : Option Service := do
  let (r, results) ← s.pool.results.receive?
  pure { s with pool := { s.pool with results }, results := s.results ++ [r] }

def takeError? (s : Service) : Option Service := do
  let (e, errors) ← s.pool.errors.receive?
  pure { s with pool := { s.pool with errors }, errors := s.errors ++ [e] }

def step? (handler : Handler) (s : Service) : Move → Option Service
  | .feed => s.feed?
  | .close => s.close?
  | .work move => (s.pool.step? handler move).map fun pool => { s with pool }
  | .takeResult => s.takeResult?
  | .takeError => s.takeError?

/-- Makes some moves, one after another. -/
def run (handler : Handler) (s : Service) (moves : List Move) : Option Service :=
  moves.foldlM (step? handler) s

/-- The call of the processor in a move. -/
def call? (handler : Handler) (s : Service) : Move → Option Call
  | .work move => s.pool.call? handler move
  | _ => none

/-- The calls of the processor in some moves, one after another. -/
def calls (handler : Handler) : Service → List Move → List Call
  | _, [] => []
  | s, move :: rest =>
    (s.call? handler move).toList ++
      match s.step? handler move with
      | some s => calls handler s rest
      | none => []

/-- Whether the workers have ended, and all of their results are taken. -/
def isFinished (s : Service) : Bool := s.pool.isGone && s.pool.results.queue.isEmpty

/-- What one move does to a service. -/
inductive Turns (handler : Handler) (s : Service) : Move → Service → Prop where
  | feeds {r : Record} {rest : List Record} :
      s.waiting = r :: rest → s.pool.input.offer = .accepted →
      Turns handler s .feed { s with waiting := rest, pool.input := s.pool.input.push r }
  | closes :
      s.waiting = [] → s.pool.input.closed = false →
      Turns handler s .close { s with pool.input.closed := true }
  | works {move : Pool.Move} {pool : Pool} :
      s.pool.step? handler move = some pool →
      Turns handler s (.work move) { s with pool }
  | takesResult {r : Result} {rest : List Result} :
      s.pool.results.queue = r :: rest →
      Turns handler s .takeResult
        { s with pool.results.queue := rest, results := s.results ++ [r] }
  | takesError {e : RecordError} {rest : List RecordError} :
      s.pool.errors.queue = e :: rest →
      Turns handler s .takeError
        { s with pool.errors.queue := rest, errors := s.errors ++ [e] }

variable {handler : Handler} {s t : Service} {move : Move}

theorem turns_of_step? (h : s.step? handler move = some t) : s.Turns handler move t := by
  cases move with
  | feed =>
    simp only [step?, feed?] at h
    cases hwaiting : s.waiting with
    | nil => simp [hwaiting] at h
    | cons r rest =>
      cases hcancelled : s.pool.scope.cancelled with
      | true => simp [hwaiting, Channel.handOver, hcancelled] at h
      | false =>
        cases hoffer : s.pool.input.offer with
        | accepted =>
          have hnext : { s with waiting := rest, pool.input := s.pool.input.push r } = t := by
            simpa [hwaiting, Channel.handOver, hcancelled, hoffer] using h
          rw [← hnext]
          exact .feeds hwaiting hoffer
        | full => simp [hwaiting, Channel.handOver, hcancelled, hoffer] at h
        | refused => simp [hwaiting, Channel.handOver, hcancelled, hoffer] at h
  | close =>
    have hcloses : (s.waiting = [] ∧ s.pool.input.closed = false) ∧
        { s with pool.input.closed := true } = t := by
      simpa [step?, close?] using h
    rcases hcloses with ⟨⟨hwaiting, hopen⟩, rfl⟩
    exact .closes hwaiting hopen
  | work move =>
    rcases Option.map_eq_some_iff.1 h with ⟨pool, hpool, rfl⟩
    exact .works hpool
  | takeResult =>
    cases hqueue : s.pool.results.queue with
    | nil => simp [step?, takeResult?, Channel.receive?, hqueue] at h
    | cons r rest =>
      have hnext : { s with pool.results.queue := rest, results := s.results ++ [r] } = t := by
        simpa [step?, takeResult?, Channel.receive?, hqueue] using h
      rw [← hnext]
      exact .takesResult hqueue
  | takeError =>
    cases hqueue : s.pool.errors.queue with
    | nil => simp [step?, takeError?, Channel.receive?, hqueue] at h
    | cons e rest =>
      have hnext : { s with pool.errors.queue := rest, errors := s.errors ++ [e] } = t := by
        simpa [step?, takeError?, Channel.receive?, hqueue] using h
      rw [← hnext]
      exact .takesError hqueue

theorem Turns.cancelled (h : s.Turns handler move t)
    (hcancelled : s.pool.scope.cancelled = true) : t.pool.scope.cancelled = true := by
  cases h with
  | works hstep => exact Pool.cancelled_step? hstep hcancelled
  | _ => exact hcancelled

theorem cancelled_run {moves : List Move} (h : s.run handler moves = some t)
    (hcancelled : s.pool.scope.cancelled = true) : t.pool.scope.cancelled = true := by
  induction moves generalizing s with
  | nil =>
    cases h
    exact hcancelled
  | cons move rest ih =>
    rcases Option.bind_eq_some_iff.1 h with ⟨next, hnext, hrest⟩
    exact ih hrest ((turns_of_step? hnext).cancelled hcancelled)

/-- What has not been cancelled in the end has not been before. -/
theorem ongoing_of_run {moves : List Move} (h : s.run handler moves = some t)
    (hongoing : t.pool.scope.cancelled = false) : s.pool.scope.cancelled = false := by
  cases hcancelled : s.pool.scope.cancelled with
  | false => rfl
  | true => exact (cancelled_run h hcancelled).symm.trans hongoing

/-- What the turns of an uncancelled service keep, moves that leave it uncancelled keep. -/
theorem run_induction {P : Service → Prop}
    (turn : ∀ s move t, s.Turns handler move t → s.pool.scope.cancelled = false →
      t.pool.scope.cancelled = false → P s → P t)
    {moves : List Move} (h : s.run handler moves = some t)
    (hongoing : t.pool.scope.cancelled = false) (hs : P s) : P t := by
  induction moves generalizing s with
  | nil =>
    cases h
    exact hs
  | cons move rest ih =>
    have hfirst := ongoing_of_run h hongoing
    rcases Option.bind_eq_some_iff.1 h with ⟨next, hnext, hrest⟩
    exact ih hrest (turn _ _ _ (turns_of_step? hnext) hfirst (ongoing_of_run hrest hongoing) hs)

/-! ## Calls -/

theorem calls_cons {next : Service} {rest : List Move} (h : s.step? handler move = some next) :
    s.calls handler (move :: rest) =
      (s.call? handler move).toList ++ next.calls handler rest := by
  rw [calls, h]

/-- A pool counts the calls of its service. -/
theorem Turns.calls (h : s.Turns handler move t) :
    t.pool.calls = s.pool.calls + (s.call? handler move).toList.length := by
  cases h with
  | works hstep => exact Pool.calls_step hstep
  | feeds | closes | takesResult | takesError => rfl

/-- Each call of a service that is not cancelled meets the processor of its turn. -/
theorem answered_of_run {moves : List Move} (h : s.run handler moves = some t)
    (hongoing : t.pool.scope.cancelled = false) :
    ∀ n c, (s.calls handler moves)[n]? = some c →
      c.verdict = (handler.answer (s.pool.calls + n) false c.record).verdict := by
  induction moves generalizing s with
  | nil => simp [calls]
  | cons move rest ih =>
    have hfirst := ongoing_of_run h hongoing
    rcases Option.bind_eq_some_iff.1 h with ⟨next, hnext, hrest⟩
    have hcounted := (turns_of_step? hnext).calls
    rw [calls_cons hnext]
    intro n c hc
    cases hcall : s.call? handler move with
    | none =>
      rw [hcall] at hc hcounted
      have hanswered := ih hrest n c hc
      rwa [hcounted] at hanswered
    | some first =>
      rw [hcall] at hc hcounted
      cases n with
      | zero =>
        have hsame : first = c := by simpa using hc
        cases move with
        | work move =>
          have hanswer := Pool.eq_of_call? hcall
          rw [Pool.answer, hfirst, hsame] at hanswer
          exact congrArg Call.verdict hanswer
        | feed | close | takeResult | takeError => cases hcall
      | succ n =>
        -- the later calls are numbered from the one behind the first
        have hanswered := ih hrest n c (by simpa using hc)
        rw [hcounted] at hanswered
        simpa [Nat.add_assoc, Nat.add_comm 1] using hanswered

/-! ## Soundness -/

/-- What holds of an uncancelled service of a pool with a layout at all times. -/
structure Sound (options : PoolOptions) (s : Service) : Prop where
  started : s.pool.stage ≠ .notStarted
  balanced : s.pool.Balanced
  capped : s.pool.Capped options.activeLimit?
  staffed : s.pool.workers ≠ []
  inputCapacity : 0 < s.pool.input.capacity
  resultsCapacity : 0 < s.pool.results.capacity
  resultsReceived : s.pool.results.abandoned = false
  alive : ∀ w ∈ s.pool.workers, w.phase ≠ .dead
  /-- A worker only ends behind the sender. -/
  ended : ∀ w ∈ s.pool.workers, w.isGone = true →
    s.pool.input.queue = [] ∧ s.pool.input.closed = true
  /-- The sender only closes behind its last record. -/
  sent : s.pool.input.closed = true → s.waiting = []
  /-- The records have receivers as long as there are workers. -/
  abandoned : s.pool.input.abandoned = true → ∀ w ∈ s.pool.workers, w.isGone = true

theorem sound_ofRecords (options : PoolOptions) {capacity : Nat} (hcapacity : 0 < capacity)
    (records : List Record) : (ofRecords options capacity records).Sound options := by
  have hbalanced := Pool.balanced_ofOptions options .ongoing (.empty capacity)
  have hcapped := Pool.capped_ofOptions options .ongoing (.empty capacity)
  have hworkers : ∀ w ∈ (ofRecords options capacity records).pool.workers, w = .initial :=
    fun w hw => List.eq_of_mem_replicate hw
  refine ⟨?_, hbalanced.congr rfl rfl, ⟨hcapped.limit, hcapped.held⟩, ?_, hcapacity, ?_, rfl,
    ?_, ?_, ?_, ?_⟩
  · simp [ofRecords, Pool.start, Pool.ofOptions]
  · have hpositive := options.workerCount_pos
    have hreplicate : List.replicate options.workerCount Worker.initial ≠ [] := by
      rw [ne_eq, List.replicate_eq_nil_iff]
      omega
    exact hreplicate
  · have hresults : 0 < options.resultCapacity := by
      have hpositive := options.workerCount_pos
      unfold PoolOptions.resultCapacity
      split <;> omega
    exact hresults
  · intro w hw
    rw [hworkers w hw]
    simp [Worker.initial]
  · intro w hw hgone
    rw [hworkers w hw] at hgone
    cases hgone
  · intro hclosed
    cases hclosed
  · intro habandoned
    cases habandoned

variable {options : PoolOptions}

/-- A worker that moves leaves a sound service sound. -/
theorem Sound.works (hdecides : ∀ n r, (handler.answer n false r).verdict ≠ .crashed)
    (hsound : s.Sound options) (hongoing : s.pool.scope.cancelled = false) {move : Pool.Move}
    {pool : Pool} (h : s.pool.step? handler move = some pool) :
    Sound options { s with pool } := by
  have hbalanced := hsound.balanced.step h
  have hcapped := hsound.capped.step h
  rcases Pool.step?_cases h with ⟨_, i, w, w', q, hw, hmove, rfl⟩ | ⟨_, _, rfl⟩
  · have halike := hmove.alike
    have hafter := hmove.isGone_after hongoing hdecides
    have hset := halike.workers_place i w'
    have hmem : ∀ w₁ ∈ (q.place i w').workers, w₁ ∈ s.pool.workers ∨ w₁ = w' := by
      intro w₁ hw₁
      rw [hset] at hw₁
      exact List.mem_or_eq_of_mem_set hw₁
    refine ⟨?_, hbalanced, hcapped, ?_, ?_, ?_, ?_, ?_, ?_, ?_, ?_⟩
    · exact halike.stage.symm ▸ hsound.started
    · rw [hset, ne_eq, List.set_eq_nil_iff]
      exact hsound.staffed
    · exact halike.inputCapacity.symm ▸ hsound.inputCapacity
    · exact halike.resultsCapacity.symm ▸ hsound.resultsCapacity
    · exact halike.resultsAbandoned.trans hsound.resultsReceived
    · intro w₁ hw₁
      rcases hmem w₁ hw₁ with hw₁ | rfl
      · exact hsound.alive w₁ hw₁
      · exact hafter.1
    · -- whoever has ended found no records and a closed stream, and so it stays
      intro w₁ hw₁ hgone
      have hended : s.pool.input.queue = [] ∧ s.pool.input.closed = true := by
        rcases hmem w₁ hw₁ with hw₁ | rfl
        · exact hsound.ended w₁ hw₁ hgone
        · exact hafter.2 hgone
      exact ⟨hmove.queue_eq_nil hended.1, halike.inputClosed.trans hended.2⟩
    · intro hclosed
      exact hsound.sent (halike.inputClosed.symm.trans hclosed)
    · intro habandoned w₁ hw₁
      rcases Bool.or_eq_true_iff.1 habandoned with hbefore | hall
      · -- the worker that moved had not ended, so that the records had a receiver
        have hgone := hsound.abandoned (halike.inputAbandoned.symm.trans hbefore) w
          (List.mem_of_getElem? hw)
        rw [hmove.isGone_eq_false] at hgone
        cases hgone
      · exact List.all_eq_true.1 hall w₁ hw₁
  · exact { hsound with
      started := by simp
      balanced := hbalanced
      capped := hcapped }

theorem Sound.turn (hdecides : ∀ n r, (handler.answer n false r).verdict ≠ .crashed)
    (hsound : s.Sound options) (hongoing : s.pool.scope.cancelled = false)
    (hturn : s.Turns handler move t) : t.Sound options := by
  cases hturn with
  | @feeds r rest hwaiting _ =>
    -- the sender still has a record, so that its stream is open and no worker has ended
    have hopen : s.pool.input.closed = false := by
      cases hclosed : s.pool.input.closed with
      | false => rfl
      | true =>
        have hnone := hsound.sent hclosed
        rw [hwaiting] at hnone
        cases hnone
    exact { hsound with
      balanced := hsound.balanced.congr rfl rfl
      capped := ⟨hsound.capped.limit, hsound.capped.held⟩
      ended := by
        intro w hw hgone
        have hclosed := (hsound.ended w hw hgone).2
        rw [hopen] at hclosed
        cases hclosed
      sent := by
        intro hclosed
        exact absurd (hopen.symm.trans hclosed) (by decide) }
  | closes hwaiting hopen =>
    exact { hsound with
      balanced := hsound.balanced.congr rfl rfl
      capped := ⟨hsound.capped.limit, hsound.capped.held⟩
      ended := fun w hw hgone => ⟨(hsound.ended w hw hgone).1, rfl⟩
      sent := fun _ => hwaiting }
  | works hstep => exact hsound.works hdecides hongoing hstep
  | takesResult | takesError =>
    exact { hsound with
      balanced := hsound.balanced.congr rfl rfl
      capped := ⟨hsound.capped.limit, hsound.capped.held⟩ }

theorem Sound.run (hdecides : ∀ n r, (handler.answer n false r).verdict ≠ .crashed)
    (hsound : s.Sound options) {moves : List Move} (h : s.run handler moves = some t)
    (hongoing : t.pool.scope.cancelled = false) : t.Sound options :=
  run_induction (P := Sound options)
    (fun _ _ _ hturn hbefore _ hsound => hsound.turn hdecides hbefore hturn) h hongoing hsound

/-! ## Progress -/

/-- A service that has not finished goes on, even if nobody takes the errors. -/
theorem Sound.exists_move (handler : Handler) (hsound : s.Sound options)
    (hongoing : s.pool.scope.cancelled = false) (hunfinished : s.isFinished = false) :
    ∃ move, move ≠ .takeError ∧ (s.step? handler move).isSome = true := by
  cases hqueue : s.pool.results.queue with
  | cons r rest =>
    exact ⟨.takeResult, by decide, by simp [step?, takeResult?, Channel.receive?, hqueue]⟩
  | nil =>
    have hgoing : ∃ w ∈ s.pool.workers, w.isGone = false := by
      simpa [isFinished, Pool.isGone, hsound.started, hqueue] using hunfinished
    have hroom : s.pool.results.offer = .accepted := by
      refine (Channel.offer_eq_accepted_iff _).2 ⟨hsound.resultsReceived, ?_⟩
      simpa [hqueue] using hsound.resultsCapacity
    rcases Pool.exists_advance handler hsound.balanced hsound.alive hroom hgoing with
      ⟨i, _, hadvance⟩ | ⟨hempty, hopen⟩
    · refine ⟨.work (.advance i), by simp, ?_⟩
      simpa [step?, Pool.step?, hsound.started] using hadvance
    · -- the workers wait for records, so that it is up to the sender
      cases hwaiting : s.waiting with
      | nil => exact ⟨.close, by decide, by simp [step?, close?, hwaiting, hopen]⟩
      | cons r rest =>
        have hreceived : s.pool.input.abandoned = false := by
          rcases hgoing with ⟨w, hw, hgoing⟩
          cases habandoned : s.pool.input.abandoned with
          | false => rfl
          | true => exact (hsound.abandoned habandoned w hw).symm.trans hgoing
        have haccepted : s.pool.input.offer = .accepted := by
          refine (Channel.offer_eq_accepted_iff _).2 ⟨hreceived, ?_⟩
          simpa [hempty] using hsound.inputCapacity
        refine ⟨.feed, by decide, ?_⟩
        simp [step?, feed?, hwaiting, Channel.handOver, hongoing, haccepted]

/-- A bound on the moves that a service can still make. -/
def work (s : Service) : Nat :=
  (Pool.recordWork + 1) * s.waiting.length + (!s.pool.input.closed).toNat + s.pool.work

theorem Turns.work_lt (h : s.Turns handler move t) : t.work < s.work := by
  cases h with
  | feeds hwaiting _ =>
    -- a record costs the sender one move more than it costs the pool
    simp only [work, Pool.work, Pool.recordWork, hwaiting, Channel.push, List.length_cons,
      List.length_append, List.length_nil]
    omega
  | closes _ hopen =>
    simp only [work, Pool.work, hopen, Bool.not_false, Bool.not_true, Bool.toNat_true,
      Bool.toNat_false]
    omega
  | @works move pool hstep =>
    have hless := Pool.work_step hstep
    have hclosed : pool.input.closed = s.pool.input.closed := by
      rcases Pool.step?_cases hstep with ⟨_, _, _, _, _, _, hmove, rfl⟩ | ⟨_, _, rfl⟩
      · exact hmove.alike.inputClosed
      · rfl
    simp only [work, hclosed]
    omega
  | takesResult hqueue | takesError hqueue =>
    simp only [work, Pool.work, hqueue, List.length_cons]
    omega

/-- Every move is paid for by the work at the start, so that no service goes on for ever. -/
theorem work_run {moves : List Move} (h : s.run handler moves = some t) :
    moves.length + t.work ≤ s.work := by
  induction moves generalizing s with
  | nil =>
    cases h
    simp
  | cons move rest ih =>
    rcases Option.bind_eq_some_iff.1 h with ⟨next, hnext, hrest⟩
    have hless := (turns_of_step? hnext).work_lt
    have hremaining := ih hrest
    rw [List.length_cons]
    omega

end Service
end RecordFlow
