import RecordFlow.Proofs.Pool.Service

/-!
# Served — what a service has come to when it has finished

A service hands records, results and errors on without a loss, so that what it was given is found
again at its end, on whatever books that is looked up:

* `Service.Served`: the processor has been called once for every record, each call has its one
  result, and the counters of the workers say so,
* `Service.serves_each_record_once` joins this with what holds on the way: the service goes on until
  it has finished, and the cap on the records in the processor is kept.
-/

namespace RecordFlow

universe u

namespace Service

variable {handler : Handler} {options : PoolOptions} {s t : Service} {move : Move}

/-! ## Conservation -/

section Weights

variable {M : Type u} [AddCancelCommMonoid M] {scale : Scale M}

/-- The weight of all that a service has been given, wherever it is. -/
def weight (scale : Scale M) (s : Service) : M :=
  (s.waiting.map scale.record).sum + s.pool.weight scale + (s.results.map scale.result).sum +
    (s.errors.map scale.error).sum

/-- A turn hands records, results and errors on, and changes their form, but not their weight. -/
theorem Turns.weight (hfits : scale.Fits handler) (h : s.Turns handler move t)
    (hongoing : s.pool.scope.cancelled = false) : t.weight scale = s.weight scale := by
  cases h with
  | feeds hwaiting _ =>
    simp only [Service.weight, Pool.weight, Pool.streamWeight, hwaiting, Channel.push,
      List.map_cons, List.map_append, List.map_nil, List.sum_cons, List.sum_append, List.sum_nil]
    abel
  | closes _ _ => rfl
  | works hstep => simp only [Service.weight, Pool.weight_step hfits hongoing hstep]
  | takesResult hqueue | takesError hqueue =>
    simp only [Service.weight, Pool.weight, Pool.streamWeight, hqueue, List.map_cons,
      List.map_append, List.map_nil, List.sum_cons, List.sum_append, List.sum_nil]
    abel

theorem weight_run (hfits : scale.Fits handler) {moves : List Move}
    (h : s.run handler moves = some t) (hongoing : t.pool.scope.cancelled = false) :
    t.weight scale = s.weight scale :=
  run_induction (P := fun t => t.weight scale = s.weight scale)
    (fun _ _ _ hturn hbefore _ hweight => (hturn.weight hfits hbefore).trans hweight) h hongoing rfl

/-- A turn keeps the books of an uncancelled service. -/
theorem Turns.balances {books : Books M} (hfair : books.Fair) (h : s.Turns handler move t)
    (hongoing : s.pool.scope.cancelled = false) :
    t.weight books.toScale + books.taken (s.call? handler move).toList =
      s.weight books.toScale + books.given (s.call? handler move).toList := by
  cases h with
  | feeds hwaiting _ =>
    simp only [Service.weight, Pool.weight, Pool.streamWeight, hwaiting, Channel.push,
      List.map_cons, List.map_append, List.map_nil, List.sum_cons, List.sum_append, List.sum_nil,
      call?, Option.toList_none, Books.taken_nil, Books.given_nil]
    abel
  | closes _ _ => simp [Service.weight, Pool.weight, Pool.streamWeight, call?]
  | @works move pool hstep =>
    have hpool := (Pool.dwindles_step hfair hstep).eq_of_ongoing hongoing
    have hcall : s.call? handler (.work move) = s.pool.call? handler move := rfl
    simp only [Service.weight, hcall]
    calc _ = (s.waiting.map books.record).sum + (pool.weight books.toScale +
            books.taken (s.pool.call? handler move).toList) +
            (s.results.map books.result).sum + (s.errors.map books.error).sum := by abel
      _ = _ := by
          rw [hpool]
          abel
  | takesResult hqueue | takesError hqueue =>
    simp only [Service.weight, Pool.weight, Pool.streamWeight, hqueue, List.map_cons,
      List.map_append, List.map_nil, List.sum_cons, List.sum_append, List.sum_nil, call?,
      Option.toList_none, Books.taken_nil, Books.given_nil]
    abel

/-- So do the moves that leave it uncancelled. -/
theorem balances_run {books : Books M} (hfair : books.Fair) {moves : List Move}
    (h : s.run handler moves = some t) (hongoing : t.pool.scope.cancelled = false) :
    t.weight books.toScale + books.taken (s.calls handler moves) =
      s.weight books.toScale + books.given (s.calls handler moves) := by
  induction moves generalizing s with
  | nil =>
    cases h
    rfl
  | cons move rest ih =>
    have hfirst := ongoing_of_run h hongoing
    rcases Option.bind_eq_some_iff.1 h with ⟨next, hnext, hrest⟩
    have hturn := (turns_of_step? hnext).balances hfair hfirst
    rw [calls_cons hnext, Books.taken_append, Books.given_append]
    calc _ = (t.weight books.toScale + books.taken (next.calls handler rest)) +
            books.taken (s.call? handler move).toList := by abel
      _ = (next.weight books.toScale + books.taken (s.call? handler move).toList) +
            books.given (next.calls handler rest) := by
          rw [ih hrest]
          abel
      _ = _ := by
          rw [hturn]
          abel

/-- At the start only the records that the sender has are of weight. -/
theorem weight_ofRecords (hzero : scale.counters 0 0 = 0) (capacity : Nat)
    (records : List Record) :
    (ofRecords options capacity records).weight scale = (records.map scale.record).sum := by
  have hworkers : ((List.replicate options.workerCount Worker.initial).map
      (Worker.weight scale)).sum = 0 := by
    simp [Worker.weight, Worker.initial, Phase.weight, hzero]
  simpa [Service.weight, ofRecords, Pool.start, Pool.weight, Pool.streamWeight, Pool.ofOptions,
    Channel.empty] using hworkers

/-- At the end only results and the counters of the workers are, if errors are of no weight. -/
theorem Sound.weight_finished (hsound : s.Sound options) (hfinished : s.isFinished = true)
    (herrors : ∀ e, scale.error e = 0) :
    s.weight scale = (s.results.map scale.result).sum +
      (s.pool.workers.map fun w => scale.counters w.processed w.failed).sum := by
  have hends : (∀ w ∈ s.pool.workers, w.isGone = true) ∧ s.pool.results.queue = [] := by
    simpa [isFinished, Pool.isGone, hsound.started] using hfinished
  rcases hends with ⟨hgone, hresults⟩
  -- the last worker found the stream of records empty and closed
  rcases List.exists_mem_of_ne_nil _ hsound.staffed with ⟨w, hw⟩
  rcases hsound.ended w hw (hgone w hw) with ⟨hinput, hclosed⟩
  have hwaiting := hsound.sent hclosed
  have hempty : ∀ w ∈ s.pool.workers,
      w.weight scale = scale.counters w.processed w.failed := by
    intro w hw
    have hended := hgone w hw
    unfold Worker.isGone at hended
    cases hphase : w.phase <;> simp_all [Worker.weight, Phase.weight]
  have hhands : s.pool.workers.map (Worker.weight scale) =
      s.pool.workers.map fun w => scale.counters w.processed w.failed :=
    List.map_congr_left hempty
  have hnothing : scale.error = fun _ => 0 := funext herrors
  simp [Service.weight, Pool.weight, Pool.streamWeight, hwaiting, hinput, hresults, hhands,
    hnothing, add_comm]

end Weights

end Service

/-! ## Scales -/

/-- The status that a verdict comes to, none if the processor breaks off. -/
def Verdict.status? : Verdict → Option Status
  | .success _ => some .success
  | .skipped => some .skipped
  | .failed _ => some .failed
  | .errored _ => some .failed
  | .crashed => none

theorem Verdict.isSome_status? {v : Verdict} (h : v ≠ .crashed) : v.status?.isSome = true := by
  cases v with
  | crashed => exact absurd rfl h
  | _ => rfl

theorem Verdict.status?_of_decision? {v : Verdict} {r : Record} {room : Bool}
    {decision : Decision} (h : v.decision? r room = some decision) :
    v.status? = some (Result.status ⟨r, decision⟩) := by
  cases v with
  | crashed => cases h
  | _ =>
    cases h
    rfl

theorem Decision.isFailed_eq (r : Record) (decision : Decision) :
    decision.isFailed = decide (Result.status ⟨r, decision⟩ = .failed) := by
  cases decision <;> rfl

/-- Records weigh one, and so do those that have been counted. -/
def processedScale : Scale Nat where
  record _ := 1
  result _ := 0
  error _ := 0
  counters processed _ := processed

/-- Results weigh as what they come to, and calls give what they lead to. -/
def outcomeBooks : Books (Multiset (Record × Option Status)) where
  record _ := 0
  result r := {(r.record, some r.status)}
  error _ := 0
  counters _ _ := 0
  takes _ := 0
  gives c := if c.verdict.status?.isSome then {(c.record, c.verdict.status?)} else 0

theorem outcomeBooks_fair : outcomeBooks.Fair where
  decides v r room decision hdecision := by
    have hstatus := Verdict.status?_of_decision? hdecision
    simp [outcomeBooks, hstatus]
  crashes _ := rfl
  counters _ _ := rfl

theorem processedScale_fits {handler : Handler}
    (hdecides : ∀ n r, (handler.answer n false r).verdict ≠ .crashed) :
    processedScale.Fits handler where
  decides := hdecides
  keeps n r room decision w hdecision := by
    simp [processedScale, Worker.tally, add_comm]

/-- On the scale of failures results weigh as many as have failed, on the other side. -/
theorem sum_results_failureScale (results : List Result) :
    (results.map failureScale.result).sum =
      -(results.countP (fun r => r.status = .failed) : Int) := by
  induction results with
  | nil => rfl
  | cons r rest ih =>
    have hfailed := r.decision.isFailed_eq r.record
    rw [List.map_cons, List.sum_cons, ih, List.countP_cons]
    cases hstatus : decide (r.status = .failed) <;> simp_all [failureScale, add_comm]

namespace Service

/-- What a service comes to: the processor has been called once for every record, each call has one
result with the status that the processor decided on, and the counters of the workers tell how many
records there were and how many of them failed. -/
structure Served (handler : Handler) (records : List Record) (calls : List Call) (s : Service) :
    Prop where
  called : (calls.map Call.record).Perm records
  answered : ∀ n c, calls[n]? = some c →
    c.verdict = (handler.answer n false c.record).verdict
  outcomes : (s.results.map fun r => (r.record, some r.status)).Perm
    (calls.map fun c => (c.record, c.verdict.status?))
  processed : s.pool.processed = records.length
  failed : s.pool.failed = s.results.countP fun r => r.status = .failed

variable {handler : Handler} {options : PoolOptions} {s : Service} {records : List Record}
  {calls : List Call}

/-- A processor that is the same at every call decides on each record for itself. -/
theorem Served.outcomes_of_steady {processor : Processor}
    (h : Served processor records calls s) :
    (s.results.map fun r => (r.record, some r.status)).Perm
      (records.map fun r => (r, (processor false r).verdict.status?)) := by
  have hcalls : calls.map (fun c => (c.record, c.verdict.status?)) =
      (calls.map Call.record).map fun r => (r, (processor false r).verdict.status?) := by
    rw [List.map_map]
    apply List.map_congr_left
    intro c hc
    rcases List.getElem?_of_mem hc with ⟨n, hn⟩
    exact congrArg (fun v => (c.record, v.status?)) (h.answered n c hn)
  exact (h.outcomes.trans (.of_eq hcalls)).trans (h.called.map _)

section Finished

variable {capacity : Nat} {moves : List Move}

/-- What the records weigh and the calls give, the results weigh and the calls take. -/
theorem Sound.booked {M : Type} [AddCancelCommMonoid M] {books : Books M} (hsound : s.Sound options)
    (h : (ofRecords options capacity records).run handler moves = some s)
    (hongoing : s.pool.scope.cancelled = false) (hfinished : s.isFinished = true)
    (hfair : books.Fair) (herrors : ∀ e, books.error e = 0) :
    (s.results.map books.result).sum +
        books.taken ((ofRecords options capacity records).calls handler moves) =
      (records.map books.record).sum +
        books.given ((ofRecords options capacity records).calls handler moves) := by
  have hcounters : (s.pool.workers.map fun w => books.counters w.processed w.failed).sum = 0 := by
    simp [hfair.counters]
  have hbalanced := balances_run hfair h hongoing
  rw [hsound.weight_finished hfinished herrors, hcounters, add_zero,
    weight_ofRecords (hfair.counters 0 0)] at hbalanced
  exact hbalanced

/-- What the records weigh, the results and the counters of the workers weigh. -/
theorem Sound.weighed {M : Type} [AddCancelCommMonoid M] {scale : Scale M}
    (hsound : s.Sound options)
    (h : (ofRecords options capacity records).run handler moves = some s)
    (hongoing : s.pool.scope.cancelled = false) (hfinished : s.isFinished = true)
    (hfits : scale.Fits handler) (herrors : ∀ e, scale.error e = 0)
    (hzero : scale.counters 0 0 = 0) :
    (s.results.map scale.result).sum +
        (s.pool.workers.map fun w => scale.counters w.processed w.failed).sum =
      (records.map scale.record).sum := by
  calc (s.results.map scale.result).sum +
        (s.pool.workers.map fun w => scale.counters w.processed w.failed).sum
      = s.weight scale := (hsound.weight_finished hfinished herrors).symm
    _ = (ofRecords options capacity records).weight scale := weight_run hfits h hongoing
    _ = (records.map scale.record).sum := weight_ofRecords hzero capacity records

theorem Sound.called (hsound : s.Sound options)
    (h : (ofRecords options capacity records).run handler moves = some s)
    (hongoing : s.pool.scope.cancelled = false) (hfinished : s.isFinished = true) :
    (((ofRecords options capacity records).calls handler moves).map Call.record).Perm records := by
  have hcalled := hsound.booked h hongoing hfinished calledBooks_fair fun _ => rfl
  have hresults : (s.results.map calledBooks.result).sum = 0 := by simp [calledBooks]
  have hrecords : (records.map calledBooks.record).sum = (records : Multiset Record) := by
    have hsum := sum_map_singleton id records
    rwa [List.map_id] at hsum
  rw [taken_calledBooks, given_calledBooks, add_zero, hresults, hrecords, zero_add] at hcalled
  exact Multiset.coe_eq_coe.1 hcalled

/-- Calls that come to a decision have a result each, with the status that was decided on. -/
theorem Sound.outcomes (hsound : s.Sound options)
    (h : (ofRecords options capacity records).run handler moves = some s)
    (hongoing : s.pool.scope.cancelled = false) (hfinished : s.isFinished = true)
    (hdecided : ∀ c ∈ (ofRecords options capacity records).calls handler moves,
      c.verdict.status?.isSome = true) :
    (s.results.map fun r => (r.record, some r.status)).Perm
      (((ofRecords options capacity records).calls handler moves).map
        fun c => (c.record, c.verdict.status?)) := by
  have hdecisions := hsound.booked h hongoing hfinished outcomeBooks_fair fun _ => rfl
  have htaken : outcomeBooks.taken ((ofRecords options capacity records).calls handler moves) =
      0 := by simp [Books.taken, outcomeBooks]
  have hrecords : (records.map outcomeBooks.record).sum = 0 := by simp [outcomeBooks]
  have hresults := sum_map_singleton (fun r : Result => (r.record, some r.status)) s.results
  have hgiven : outcomeBooks.given ((ofRecords options capacity records).calls handler moves) =
      (((ofRecords options capacity records).calls handler moves).map
        fun c => (c.record, c.verdict.status?) : Multiset (Record × Option Status)) := by
    rw [Books.given, ← sum_map_singleton]
    refine congrArg _ (List.map_congr_left fun c hc => ?_)
    exact if_pos (hdecided c hc)
  rw [htaken, hrecords, add_zero, zero_add, hgiven] at hdecisions
  exact Multiset.coe_eq_coe.1 (hresults.symm.trans hdecisions)

theorem Sound.served (hdecides : ∀ n r, (handler.answer n false r).verdict ≠ .crashed)
    (hsound : s.Sound options)
    (h : (ofRecords options capacity records).run handler moves = some s)
    (hongoing : s.pool.scope.cancelled = false) (hfinished : s.isFinished = true) :
    s.Served handler records ((ofRecords options capacity records).calls handler moves) := by
  have hstart : (ofRecords options capacity records).pool.calls = 0 := rfl
  have hanswered := answered_of_run h hongoing
  simp only [hstart, Nat.zero_add] at hanswered
  have hdecided : ∀ c ∈ (ofRecords options capacity records).calls handler moves,
      c.verdict.status?.isSome = true := by
    intro c hc
    rcases List.getElem?_of_mem hc with ⟨n, hn⟩
    rw [hanswered n c hn]
    exact Verdict.isSome_status? (hdecides n c.record)
  refine ⟨hsound.called h hongoing hfinished, hanswered,
    hsound.outcomes h hongoing hfinished hdecided, ?_, ?_⟩
  · have hweight := hsound.weighed h hongoing hfinished (processedScale_fits hdecides)
      (fun _ => rfl) rfl
    have hsum : s.pool.processed = (s.pool.workers.map Worker.processed).sum := rfl
    rw [hsum]
    simpa [processedScale] using hweight
  · have hweight := hsound.weighed h hongoing hfinished (failureScale_fits hdecides)
      (fun _ => rfl) rfl
    have hsum : s.pool.failed = (s.pool.workers.map Worker.failed).sum := rfl
    have hrecords : (records.map failureScale.record).sum = 0 := by simp [failureScale]
    rw [sum_results_failureScale, sum_counters_failureScale, hrecords] at hweight
    omega

end Finished

/-- A pool neither loses nor doubles a record.  For every number of records, workers and places on
the streams, every cap, and any order of the moves of the sender, the workers and the consumers, as
long as the processor does not break off and nobody cancels:

* a service that has not finished can go on, and it goes on for no longer than its work at the start
  allows for,
* there are never more records in the processor than the cap says, if that is below the number of
  workers,
* when it has finished, every record has gone through the processor once and has its one result, and
  the counters of the workers agree. -/
theorem serves_each_record_once {handler : Handler}
    (hdecides : ∀ n r, (handler.answer n false r).verdict ≠ .crashed) (options : PoolOptions)
    {capacity : Nat} (hcapacity : 0 < capacity) (records : List Record) {moves : List Move}
    {s : Service} (hrun : (ofRecords options capacity records).run handler moves = some s)
    (hongoing : s.pool.scope.cancelled = false) :
    (s.isFinished = false →
      ∃ move, move ≠ .takeError ∧ (s.step? handler move).isSome = true) ∧
    moves.length + s.work ≤ (ofRecords options capacity records).work ∧
    (options.maxActive ≠ 0 → options.maxActive < options.workerCount →
      s.pool.active.length ≤ options.maxActive) ∧
    (s.isFinished = true →
      s.Served handler records ((ofRecords options capacity records).calls handler moves)) := by
  have hsound : s.Sound options :=
    (sound_ofRecords options hcapacity records).run hdecides hrun hongoing
  refine ⟨?_, work_run hrun, ?_, ?_⟩
  · intro hunfinished
    exact hsound.exists_move handler hongoing hunfinished
  · intro hsome hbelow
    have hlimit : options.activeLimit? = some options.maxActive := by
      unfold PoolOptions.activeLimit?
      exact if_neg (by omega)
    have hcapped := hsound.capped
    rw [hlimit] at hcapped
    exact hcapped.length_active_le hsound.balanced
  · intro hfinished
    exact hsound.served hdecides hrun hongoing hfinished

/-- A processor that passes on every other record that it is called for, and fails itself for the
others. -/
def alternating : Handler :=
  ⟨fun n _ r => ⟨if n % 2 = 0 then .success r.toJson else .errored .timeout, false, none⟩⟩

/-- Two records for two workers, of whom only one may be in the processor. -/
def sampleRecords : List Record := [⟨1, "a.csv", ["x"], none⟩, ⟨2, "a.csv", ["y"], none⟩]

/-- An order in which the second worker waits for the permit of the first. -/
def sampleMoves : List Move :=
  let advances (worker count : Nat) : List Move :=
    List.replicate count (.work (.advance worker))
  List.flatten [[.feed], advances 0 2, [.feed, .close], advances 1 2, advances 0 3, advances 1 2,
    advances 0 2, advances 1 2, advances 0 2, [.takeResult], advances 1 3,
    [.takeResult, .takeError], advances 0 2, advances 1 2]

theorem sampleRecords_served :
    ∃ s, (ofRecords ⟨2, 1, 1, 1⟩ 1 sampleRecords).run alternating sampleMoves = some s ∧
      (s.results.map fun r => (r.record, some r.status)).Perm
        [(⟨1, "a.csv", ["x"], none⟩, some .success), (⟨2, "a.csv", ["y"], none⟩, some .failed)] ∧
      s.pool.processed = 2 ∧ s.pool.failed = 1 ∧ s.pool.active.length ≤ 1 := by
  have hdecides : ∀ n r, (alternating.answer n false r).verdict ≠ .crashed := by
    intro n r
    by_cases heven : n % 2 = 0 <;> simp [alternating, heven]
  have hends : ((ofRecords ⟨2, 1, 1, 1⟩ 1 sampleRecords).run alternating sampleMoves).map
      (fun s => (s.pool.scope.cancelled, s.isFinished,
        s.results.countP fun r => r.status = .failed)) = some (false, true, 1) := by
    decide +kernel
  have hcalls : ((ofRecords ⟨2, 1, 1, 1⟩ 1 sampleRecords).calls alternating sampleMoves).map
      (fun c => (c.record, c.verdict.status?)) =
        [(⟨1, "a.csv", ["x"], none⟩, some .success),
          (⟨2, "a.csv", ["y"], none⟩, some .failed)] := by
    decide +kernel
  rcases Option.map_eq_some_iff.1 hends with ⟨s, hrun, hstate⟩
  simp only [Prod.mk.injEq] at hstate
  rcases hstate with ⟨hongoing, hfinished, hcount⟩
  rcases serves_each_record_once hdecides ⟨2, 1, 1, 1⟩ (by decide) sampleRecords hrun hongoing with
    ⟨_, _, hcapped, hserved⟩
  have hserved := hserved hfinished
  have houtcomes := hserved.outcomes
  rw [hcalls] at houtcomes
  exact ⟨s, hrun, houtcomes, hserved.processed, hserved.failed.trans hcount,
    hcapped (by decide) (by decide)⟩

end Service
end RecordFlow
