import RecordFlow.Proofs.Ledger.Entries
import RecordFlow.Proofs.Run.Accounting
import RecordFlow.Proofs.Run.Followed

/-!
# Failures — every failure is collected once

The error of a record comes to the accounts on one of two ways: with its result, or ahead of it when
there is room on the stream of errors.  The result of an error that went ahead is not collected
again, and one that found no room is collected with the result.  So the errors that the collector
holds are those of the calls of the processor and of the sources, each once; a run that is cancelled
may lack some of them, but has none twice (`Run.failures_collected_once`).
-/

namespace RecordFlow

/-! ## Two books -/

def Result.owed? (r : Result) : Option RecordError :=
  r.uncollected?.map fun error => ⟨error, some r.record⟩

/-- Results and errors weigh what has to be collected for them, and calls give what they fail
with. -/
def owedBooks : Books (Multiset RecordError) where
  record _ := 0
  result r := r.owed?.toList
  error e := {e}
  counters _ _ := 0
  takes _ := 0
  gives c := c.failure?.toList

theorem owedBooks_fair : owedBooks.Fair where
  decides v r room decision hdecision := by
    -- an error that finds room is sent ahead, and one that does not stays with the result
    cases v with
    | errored error =>
      cases hdecision
      cases room <;> rfl
    | crashed => cases hdecision
    | success | skipped | failed => cases hdecision; rfl
  crashes _ := rfl
  counters _ _ := rfl

/-! ## Events on the books -/

/-- The error that an event collects, if it comes from the pool. -/
def Event.pooled? : Event → Option RecordError
  | .reading _ => none
  | e => e.collected?

theorem Event.weight_owedBooks (e : Event) :
    e.weight owedBooks.toScale = (e.pooled?.toList : Multiset RecordError) := by
  cases e <;> rfl

/-- Values that may be there add up to the list of those that are. -/
theorem sum_map_toList {α β : Type} (pick : α → Option β) (l : List α) :
    (l.map fun a => ((pick a).toList : Multiset β)).sum = (l.filterMap pick : Multiset β) := by
  induction l with
  | nil => rfl
  | cons a l ih =>
    rw [List.map_cons, List.sum_cons, ih]
    cases hpick : pick a with
    | none =>
      rw [List.filterMap_cons_none hpick]
      exact zero_add _
    | some b =>
      rw [List.filterMap_cons_some hpick]
      rfl

/-- What is there after, beside something else, was there before. -/
theorem Dwindles.subperm {α : Type} {cancelled : Bool} {before after : List α} {rest : Multiset α}
    (h : Dwindles cancelled (before : Multiset α) (rest + (after : Multiset α))) :
    after.Subperm before := by
  rcases h with ⟨lost, _, hbooked⟩
  apply Multiset.coe_le.1
  calc (after : Multiset α) ≤ (after : Multiset α) + (rest + lost) := Multiset.le_add_right _ _
    _ = rest + (after : Multiset α) + lost := by abel
    _ = (before : Multiset α) := hbooked

/-- On the books of what is owed the accounts weigh what they collected from the pool. -/
theorem sum_weight_owedBooks (history : List (Moment × Event)) :
    (history.map fun e => e.2.weight owedBooks.toScale).sum =
      (history.filterMap fun e => e.2.pooled? : Multiset RecordError) := by
  simp only [Event.weight_owedBooks]
  exact sum_map_toList (fun e : Moment × Event => e.2.pooled?) history

theorem sum_weight_calledBooks (history : List (Moment × Event)) :
    (history.map fun e => e.2.weight calledBooks.toScale).sum = 0 := by
  refine List.sum_eq_zero fun n hn => ?_
  rcases List.mem_map.1 hn with ⟨⟨time, e⟩, _, rfl⟩
  cases e <;> rfl

/-- What is collected comes from the pool or from the sources. -/
theorem collected_perm (history : List (Moment × Event)) :
    (history.filterMap fun e => e.2.collected?).Perm
      ((history.filterMap fun e => e.2.pooled?) ++ history.filterMap fun e => e.2.reading?) := by
  induction history with
  | nil => rfl
  | cons e rest ih =>
    rcases e with ⟨time, e⟩
    cases e with
    | reading error => exact (ih.cons error).trans List.perm_middle.symm
    | processing error => exact ih.cons error
    | result r =>
      cases howed : r.uncollected? with
      | none => simpa [Event.pooled?, Event.collected?, Event.reading?, howed] using ih
      | some error =>
        simpa [Event.pooled?, Event.collected?, Event.reading?, howed] using ih

namespace Run

section Called

variable {handler : Handler} {options : RunOptions} {output : Output} {files : Files}
  {created start : Instant} {log : Log} {calls : List Call} {f : Flow}

/-- The calls took records that were emitted, and each of them once; before the run is cancelled all
that were emitted are in the pool or have been taken. -/
theorem called_records
    (hcalled : ((ofOptions options output created).launch files start).Called handler log
      calls f) :
    Dwindles f.pool.scope.cancelled (log.records : Multiset Record)
      (f.pool.weight calledBooks.toScale + (calls.map Call.record : Multiset Record)) := by
  have hdwindles := hcalled.dwindles calledBooks_fair
    (weight_launch options output files created start rfl)
  have hrecords : (log.records.map calledBooks.record).sum = (log.records : Multiset Record) := by
    have hsum := sum_map_singleton id log.records
    rwa [List.map_id] at hsum
  rwa [hrecords, taken_calledBooks, given_calledBooks, sum_weight_calledBooks, add_zero,
    add_zero] at hdwindles

/-- What the accounts collected from the pool are failures of calls, each once; before the run is
cancelled all failures are in the pool or have been collected. -/
theorem pooled_failures
    (hcalled : ((ofOptions options output created).launch files start).Called handler log
      calls f) :
    Dwindles f.pool.scope.cancelled (calls.filterMap Call.failure? : Multiset RecordError)
      (f.pool.weight owedBooks.toScale +
        (log.accounted.filterMap fun e => e.2.pooled? : Multiset RecordError)) := by
  have hdwindles := hcalled.dwindles owedBooks_fair
    (weight_launch options output files created start rfl)
  have hgiven : owedBooks.given calls = (calls.filterMap Call.failure? : Multiset RecordError) :=
    sum_map_toList Call.failure? calls
  have htaken : owedBooks.taken calls = 0 := by simp [Books.taken, owedBooks]
  have hrecords : (log.records.map owedBooks.record).sum = 0 := by simp [owedBooks]
  rwa [htaken, hgiven, hrecords, sum_weight_owedBooks, add_zero, zero_add] at hdwindles

/-- Nothing is owed for what is left in a pool when a flow has ended. -/
theorem weight_owedBooks_of_isEnded (hwired : f.Wired) (hended : f.isEnded = true) :
    f.pool.weight owedBooks.toScale = 0 := by
  rcases hwired.isEnded_iff.1 hended with ⟨_, hgone, _, hresults, herrors⟩
  -- whoever has ended has nothing in its hands
  have hworkers : (f.pool.workers.map (Worker.weight owedBooks.toScale)).sum = 0 := by
    apply List.sum_eq_zero
    intro n hn
    rcases List.mem_map.1 hn with ⟨w, hw, rfl⟩
    have hphase := hgone w hw
    rw [w.weight_of_fair owedBooks_fair]
    cases h : w.phase <;> simp_all [Worker.isGone, Phase.weight]
  -- and records that are left in the input owe nothing
  have hinput : (f.pool.input.queue.map owedBooks.record).sum = 0 := by simp [owedBooks]
  rw [Pool.weight, Pool.streamWeight, hresults, herrors, hworkers, hinput]
  rfl

/-! ## The collector -/

theorem rejections_eq_accounted
    (htrace : Flow.Trace handler ((ofOptions options output created).launch files start) log f) :
    log.rejections = (log.accounted.filterMap fun e => e.2.reading?) ++ f.rejections.queue :=
  htrace.rejections_eq (rejections_launch options output files created start)

/-- At any point, with or without a limit, nothing is collected twice. -/
theorem causes_subperm_of_called
    (hcalled : ((ofOptions options output created).launch files start).Called handler log
      calls f) :
    f.ledger.collector.causes.Subperm (calls.filterMap Call.failure? ++ log.rejections) := by
  have hcauses := Ledger.causes_accountAll_sublist
    ((ofOptions options output created).launch files start).ledger log.accounted
  rw [← hcalled.trace.ledger, collector_launch] at hcauses
  have hcalls : (log.accounted.filterMap fun e => e.2.pooled?).Subperm
      (calls.filterMap Call.failure?) := (pooled_failures hcalled).subperm
  have hsources : (log.accounted.filterMap fun e => e.2.reading?).Subperm log.rejections := by
    rw [rejections_eq_accounted hcalled.trace]
    exact (List.sublist_append_left _ _).subperm
  have hboth := add_le_add (Multiset.coe_le.2 hcalls) (Multiset.coe_le.2 hsources)
  rw [Multiset.coe_add, Multiset.coe_add] at hboth
  exact hcauses.subperm.trans
    ((collected_perm log.accounted).subperm.trans (Multiset.coe_le.1 hboth))

/-- In the end, when nothing is owed any more, all has been collected. -/
theorem causes_perm_of_called
    (hcalled : ((ofOptions options output created).launch files start).Called handler log
      calls f)
    (hunlimited : options.tolerance.maxErrors = 0) (hongoing : f.pool.scope.cancelled = false)
    (hended : f.isEnded = true) :
    f.ledger.collector.causes.Perm (calls.filterMap Call.failure? ++ log.rejections) := by
  have hwired := hcalled.trace.wired (wired_launch options output files created start)
  have hcauses := Ledger.causes_accountAll
    (l := ((ofOptions options output created).launch files start).ledger) log.accounted
    (by rw [collector_launch]; exact hunlimited)
  rw [← hcalled.trace.ledger, collector_launch] at hcauses
  have hcalls : (log.accounted.filterMap fun e => e.2.pooled?).Perm
      (calls.filterMap Call.failure?) := by
    have hbooked := (pooled_failures hcalled).eq_of_ongoing hongoing
    rw [weight_owedBooks_of_isEnded hwired hended, zero_add] at hbooked
    exact Multiset.coe_eq_coe.1 hbooked
  have hqueue := (hwired.isEnded_iff.1 hended).2.2.1
  have hsources := rejections_eq_accounted hcalled.trace
  rw [hqueue, List.append_nil] at hsources
  rw [hcauses, hsources]
  exact (collected_perm log.accounted).trans (hcalls.append_right _)

/-- What the collector of a run holds of the failures of calls and of the errors of the sources. -/
structure CollectedOnce (handler : Handler) (tolerance : Tolerance) (log : Log)
    (calls : List Call) (f : Flow) : Prop where
  /-- The processor is called once at most for each record that was emitted. -/
  called : (calls.map Call.record).Subperm log.records
  /-- A call has the answer of the processor of its turn, and has seen the run going on unless the
  run is cancelled. -/
  answered : ∀ n c, calls[n]? = some c → ∃ cancelled,
    c.verdict = (handler.answer n cancelled c.record).verdict ∧
    (f.pool.scope.cancelled = false → cancelled = false)
  /-- Nothing is collected but the failures of calls and the errors of the sources, and none of them
  twice. -/
  atMostOnce : f.ledger.collector.causes.Subperm (calls.filterMap Call.failure? ++ log.rejections)
  /-- Without a limit and a cancellation all of them have been collected in the end. -/
  exactlyOnce : tolerance.maxErrors = 0 → f.pool.scope.cancelled = false → f.isEnded = true →
    f.ledger.collector.causes.Perm (calls.filterMap Call.failure? ++ log.rejections)

theorem collectedOnce_of_called
    (hcalled : ((ofOptions options output created).launch files start).Called handler log
      calls f) :
    CollectedOnce handler options.tolerance log calls f := by
  have hanswered := hcalled.answered
  simp only [calls_launch, Nat.zero_add] at hanswered
  exact {
    -- the records that no call took are still in the pool, or have been lost
    called := (called_records hcalled).subperm
    answered := hanswered
    atMostOnce := causes_subperm_of_called hcalled
    exactlyOnce := causes_perm_of_called hcalled }

/-- When an uncancelled run has ended, its processor has been called once for each record. -/
theorem records_perm_of_ended (hdecides : ∀ n r, (handler.answer n false r).verdict ≠ .crashed)
    (hcalled : ((ofOptions options output created).launch files start).Called handler log
      calls f)
    (hongoing : f.pool.scope.cancelled = false) (hended : f.isEnded = true) :
    (calls.map Call.record).Perm (passedRows options files (allPlaces options)) := by
  have htrace := hcalled.trace
  have hwired := wired_launch options output files created start
  have hundisturbed := htrace.undisturbed hdecides hwired
    (undisturbed_launch options output files created start) hongoing
  have hrest : f.pool.weight calledBooks.toScale = 0 := by
    rw [hundisturbed.weight_of_isEnded _ (htrace.wired hwired) hended]
    simp [calledBooks]
  have htaken := (called_records hcalled).eq_of_ongoing hongoing
  rw [hrest, zero_add] at htaken
  exact (Multiset.coe_eq_coe.1 htaken).trans (emitted_of_trace hdecides htrace hongoing hended).1

/-- Without a limit the collector of an uncancelled run holds the failures of its calls in the end,
and one error for each row and each source that was rejected. -/
theorem causes_perm_of_ended (hdecides : ∀ n r, (handler.answer n false r).verdict ≠ .crashed)
    (hcalled : ((ofOptions options output created).launch files start).Called handler log
      calls f)
    (hongoing : f.pool.scope.cancelled = false) (hended : f.isEnded = true)
    (hunlimited : options.tolerance.maxErrors = 0) :
    f.ledger.collector.causes.Perm (calls.filterMap Call.failure? ++
      (rejectedRows options files (allPlaces options) ++
        (failures options files).map (⟨·, none⟩))) := by
  have hrejections := (emitted_of_trace hdecides hcalled.trace hongoing hended).2
  have hcollected := (collectedOnce_of_called hcalled).exactlyOnce hunlimited hongoing hended
  exact hcollected.trans (hrejections.append_left _)

def answer (processor : Processor) (r : Record) : Call := ⟨r, (processor false r).verdict⟩

/-- A processor that is the same at every call fails on the same records in whichever order it is
called for them. -/
theorem failures_of_steady {processor : Processor}
    (hdecides : ∀ r, (processor false r).verdict ≠ .crashed)
    (hcalled : ((ofOptions options output created).launch files start).Called processor log
      calls f)
    (hongoing : f.pool.scope.cancelled = false) (hended : f.isEnded = true) :
    calls.Perm ((passedRows options files (allPlaces options)).map (answer processor)) ∧
    (options.tolerance.maxErrors = 0 → f.ledger.collector.causes.Perm
      (((passedRows options files (allPlaces options)).map (answer processor)).filterMap
          Call.failure? ++
        (rejectedRows options files (allPlaces options) ++
          (failures options files).map (⟨·, none⟩)))) := by
  have hanswers : ∀ c ∈ calls, c = answer processor c.record := by
    intro c hc
    rcases List.getElem?_of_mem hc with ⟨n, hn⟩
    rcases (collectedOnce_of_called hcalled).answered n c hn with ⟨cancelled, hverdict, hgoing⟩
    rw [hgoing hongoing] at hverdict
    exact congrArg (Call.mk c.record) hverdict
  have hcalls : calls.Perm ((passedRows options files (allPlaces options)).map
      (answer processor)) := by
    calc calls = calls.map id := (List.map_id calls).symm
      _ = (calls.map Call.record).map (answer processor) := by
          rw [List.map_map]
          exact List.map_congr_left hanswers
      List.Perm _ ((passedRows options files (allPlaces options)).map (answer processor)) :=
          (records_perm_of_ended (fun _ => hdecides) hcalled hongoing hended).map _
  refine ⟨hcalls, fun hunlimited => ?_⟩
  exact (causes_perm_of_ended (fun _ => hdecides) hcalled hongoing hended hunlimited).trans
    ((hcalls.filterMap _).append_right _)

/-- For every processor and every layout of the workers and their streams, in whichever order the
moves of a run are made:

* at every point the collector holds the failures of calls and the errors of the sources once at
  most, and once each when the run has ended without a limit and a cancellation,
* if the processor never breaks off, a run that is not cancelled goes on until it has ended; it has
  called the processor once for every row that was not rejected then, and without a limit the
  collector holds one error for each of these calls that failed, for each row that was rejected, and
  for each source that failed,
* every move lessens the work that is left, but for a cancellation from outside. -/
theorem failures_collected_once (handler : Handler) (options : RunOptions) (output : Output)
    (files : Files) (created start : Instant) (log : Log) (calls : List Call) (f : Flow)
    (hcalled : ((ofOptions options output created).launch files start).Called handler log
      calls f) :
    CollectedOnce handler options.tolerance log calls f ∧
    ((∀ n r, (handler.answer n false r).verdict ≠ .crashed) → f.pool.scope.cancelled = false →
      (f.isEnded = false →
        ∃ move, move ≠ Flow.Move.stop ∧ (f.step? handler move).isSome = true) ∧
      (f.isEnded = true →
        (calls.map Call.record).Perm (passedRows options files (allPlaces options)) ∧
        (options.tolerance.maxErrors = 0 → f.ledger.collector.causes.Perm
          (calls.filterMap Call.failure? ++
            (rejectedRows options files (allPlaces options) ++
              (failures options files).map (⟨·, none⟩)))))) ∧
    ∀ move g, move ≠ Flow.Move.stop → f.step? handler move = some g → g.work < f.work := by
  have htrace := hcalled.trace
  have hwired := wired_launch options output files created start
  refine ⟨collectedOnce_of_called hcalled, ?_, ?_⟩
  · intro hdecides hongoing
    have hundisturbed := htrace.undisturbed hdecides hwired
      (undisturbed_launch options output files created start) hongoing
    constructor
    · intro hended
      rcases hundisturbed.exists_candidate handler start.wall (htrace.wired hwired) hended with
        ⟨move, hmove, hstep⟩
      exact ⟨move, Flow.ne_stop_of_mem_candidates hmove, hstep⟩
    · intro hended
      exact ⟨records_perm_of_ended hdecides hcalled hongoing hended,
        causes_perm_of_ended hdecides hcalled hongoing hended⟩
  · intro move g hmove hstep
    exact (Flow.turns_of_step? hstep).work_lt hmove

end Called

/-- A processor that fails itself when it is called first, and rejects every later record. -/
def moody : Handler :=
  ⟨fun n _ _ => ⟨if n = 0 then .errored .timeout else .failed (.processing "no"), false, none⟩⟩

def moodyCourse : Course :=
  .settled moody (default : Instant).wall
    ((ofOptions sampleOptions .none default).launch sampleFiles default)

/-- The sample run has two records, a row that is rejected and a source that is missing. -/
theorem failures_collected_once_moody :
    let causes := ((ofOptions sampleOptions .none default).execute moody sampleFiles default
      default).1.ledger.collector.causes
    causes.length = 4 ∧
      causes.count ⟨.context "process" "a" 2 .timeout,
        some ⟨2, "a", ["1", "x"], some ["i", "n"]⟩⟩ = 1 ∧
      causes.count ⟨.processing "no", some ⟨2, "b", ["3", "y"], some ["i", "n"]⟩⟩ = 1 := by
  have hdecides : ∀ n r, (moody.answer n false r).verdict ≠ .crashed := by
    intro n r
    by_cases hfirst : n = 0 <;> simp [moody, hfirst]
  have hongoing : moodyCourse.flow.pool.scope.cancelled = false := by decide +kernel
  have hended : moodyCourse.flow.isEnded = true := by decide +kernel
  have hflow : moodyCourse.flow = ((ofOptions sampleOptions .none default).launch sampleFiles
      default).settle moody (default : Instant).wall := Course.flow_settled ..
  have hcalled := Course.called_settled moody (default : Instant).wall
    ((ofOptions sampleOptions .none default).launch sampleFiles default)
  rw [← hflow] at hcalled
  have hcollected := (failures_collected_once moody sampleOptions .none sampleFiles default default
    _ moodyCourse.calls moodyCourse.flow hcalled).2.1 hdecides hongoing
  have hperm := (hcollected.2 hended).2 rfl
  have hrun : (ofOptions sampleOptions .none default).execute moody sampleFiles default default =
      (ofOptions sampleOptions .none default).conclude moodyCourse.flow default := by
    rw [execute_eq_conclude, hflow]
  rw [hrun, collector_conclude]
  exact ⟨hperm.length_eq.trans (by decide +kernel), (hperm.count_eq _).trans (by decide +kernel),
    (hperm.count_eq _).trans (by decide +kernel)⟩

end Run

end RecordFlow
