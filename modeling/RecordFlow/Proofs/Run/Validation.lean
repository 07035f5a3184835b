import RecordFlow.Proofs.Run.Progress
import RecordFlow.Proofs.Source.Census

/-!
# Validation — flows whose processor is the validator

The validator decides on every record by its form alone.  When an undisturbed flow has ended, the
accounts have taken, in some order, every error of a source and the result of every record that was
emitted, and nothing else (`Flow.Undisturbed.accounted_perm`).
-/

namespace RecordFlow

/-! ## The validator -/

/-- The result of a record that has been validated. -/
def validated (r : Record) : Result :=
  ⟨r, ((validator false r).verdict.decision? r false).getD .skipped⟩

/-- The validator comes to its decision whether or not errors find room, and sends none ahead. -/
theorem validator_decides (r : Record) (room : Bool) :
    (validator false r).verdict.decision? r room = some (validated r).decision ∧
      (validator false r).verdict.forwarded? r room = none := by
  unfold validated validator
  cases r.isComplete <;> exact ⟨rfl, rfl⟩

theorem validator_harmless : Handler.Harmless validator := by
  intro n r
  simp only [validator]
  cases r.isComplete <;> exact ⟨rfl, rfl⟩

theorem validator_ne_crashed (n : Nat) (r : Record) :
    ((validator : Handler).answer n false r).verdict ≠ .crashed := by
  simp only [validator]
  cases r.isComplete <;> simp

theorem validated_of_isValid {r : Record} (hvalid : r.isValid = true) :
    validated r = ⟨r, .success r.toJson⟩ := by
  rw [Record.isValid_eq_isComplete] at hvalid
  simp [validated, validator, hvalid, Verdict.decision?]

/-! ## Events on the scale -/

/-- Records weigh as the events that account for them in the end. -/
def eventScale : Scale (Multiset Event) where
  record r := {.result (validated r)}
  result r := {.result r}
  error e := {.processing e}
  counters _ _ := 0

theorem eventScale_fits : eventScale.Fits validator where
  decides := validator_ne_crashed
  keeps n r room decision w hdecision := by
    rcases validator_decides r room with ⟨hdecides, hforwarded⟩
    rw [hdecides] at hdecision
    cases hdecision
    simp [hforwarded, eventScale]
    rfl

/-- Whether an event is an error of a source. -/
def Event.isReading (e : Event) : Bool := e.reading?.isSome

/-- On the scale of events an error of a source weighs nothing, any other event itself. -/
theorem Event.weight_eventScale (e : Event) :
    e.weight eventScale = if e.isReading then 0 else {e} := by
  cases e <;> rfl

/-- On the scale of events the accounts weigh what did not come from the sources. -/
theorem sum_weight_eventScale (history : List (Moment × Event)) :
    (history.map fun e => e.2.weight eventScale).sum =
      ((history.map Prod.snd).filter fun e => !e.isReading : Multiset Event) := by
  induction history with
  | nil => rfl
  | cons e rest ih =>
    rw [List.map_cons, List.sum_cons, ih, List.map_cons, Event.weight_eventScale]
    cases hreading : e.2.isReading with
    | true =>
      rw [List.filter_cons_of_neg (by simp [hreading])]
      exact zero_add _
    | false =>
      rw [List.filter_cons_of_pos (by simp [hreading])]
      exact Multiset.singleton_add _ _

theorem filter_isReading (history : List (Moment × Event)) :
    (history.map Prod.snd).filter Event.isReading =
      (history.filterMap fun e => e.2.reading?).map .reading := by
  induction history with
  | nil => rfl
  | cons e rest ih =>
    rcases e with ⟨time, event⟩
    cases event with
    | reading error =>
      have hreading : (time, Event.reading error).2.reading? = some error := rfl
      rw [List.map_cons, List.filter_cons_of_pos rfl, List.filterMap_cons, hreading,
        List.map_cons, ih]
    | result _ | processing _ =>
      rw [List.map_cons, List.filter_cons_of_neg (by simp [Event.isReading, Event.reading?]),
        List.filterMap_cons_none rfl, ih]

namespace Flow

variable {f g : Flow} {log : Log} {options : Source.Options}
  {sources : List (Except FlowError Source.Opened)}

/-- When an undisturbed flow has ended, only the counters of its workers weigh anything. -/
theorem Undisturbed.weight_of_isEnded {M : Type*} [AddCommMonoid M] (scale : Scale M)
    (h : f.Undisturbed options sources log) (hwired : f.Wired) (hended : f.isEnded = true) :
    f.pool.weight scale =
      (f.pool.workers.map fun w => scale.counters w.processed w.failed).sum := by
  rcases hwired.isEnded_iff.1 hended with ⟨_, hgone, _, hresults, herrors⟩
  -- a worker only ends when there are no records left
  have hinput : f.pool.input.queue = [] := by
    rcases List.exists_mem_of_ne_nil _ hwired.workers with ⟨w, hw⟩
    exact (h.ended w hw (hgone w hw)).1
  have hworkers : f.pool.workers.map (Worker.weight scale) =
      f.pool.workers.map fun w => scale.counters w.processed w.failed := by
    refine List.map_congr_left fun w hw => ?_
    have hhands : w.phase.weight scale = 0 := by
      have hphase := hgone w hw
      cases h : w.phase <;> simp_all [Worker.isGone, Phase.weight]
    rw [Worker.weight, hhands, zero_add]
  rw [Pool.weight, Pool.streamWeight, hinput, hresults, herrors, hworkers]
  simp

/-- When an undisturbed flow has ended, the accounts have taken, in some order, every error of a
source, the result of every record that was emitted, and nothing else. -/
theorem Undisturbed.accounted_perm (h : g.Undisturbed options sources log) (hwired : g.Wired)
    (htrace : Trace validator f log g) (hstart : f.pool.weight eventScale = 0)
    (hended : g.isEnded = true) :
    (log.accounted.map Prod.snd).Perm
      (log.rejections.map .reading ++ log.records.map fun r => .result (validated r)) := by
  have hqueue := (hwired.isEnded_iff.1 hended).2.2.1
  -- errors of sources come in their order, and none is left on the stream
  have hreadings : (log.accounted.map Prod.snd).filter Event.isReading =
      log.rejections.map .reading := by
    rw [filter_isReading, h.rejections, hqueue, List.append_nil]
  -- everything else weighs what the records weigh, since nothing is left in the pool
  have hresults : ((log.accounted.map Prod.snd).filter fun e => !e.isReading).Perm
      (log.records.map fun r => .result (validated r)) := by
    have hweighs := htrace.weighs eventScale_fits hstart h.ongoing
    have hrest : g.pool.weight eventScale = 0 := by
      rw [h.weight_of_isEnded eventScale hwired hended]
      simp [eventScale]
    rw [hrest, zero_add, sum_weight_eventScale] at hweighs
    have hrecords := sum_map_singleton (fun r => Event.result (validated r)) log.records
    exact Multiset.coe_eq_coe.1 (hweighs.symm.trans hrecords)
  rw [← hreadings]
  exact (List.filter_append_perm _ _).symm.trans (hresults.append_left _)

/-- No worker of an undisturbed flow that has ended counted a failure, if the sources emit nothing
but well-formed records. -/
theorem Undisturbed.failed_eq_zero (h : g.Undisturbed options sources log) (hwired : g.Wired)
    (htrace : Trace validator f log g) (hevents : f.pool.weight eventScale = 0)
    (hfailures : f.pool.weight failureScale = 0) (hended : g.isEnded = true)
    (hvalid : ∀ r ∈ log.records, r.isValid = true) :
    ∀ w ∈ g.pool.workers, w.failed = 0 := by
  have hperm := h.accounted_perm hwired htrace hevents hended
  -- no result that the accounts took is a failure
  have hnone : ((log.accounted.map fun e => e.2.weight failureScale)).sum = 0 := by
    refine List.sum_eq_zero fun n hn => ?_
    rcases List.mem_map.1 hn with ⟨⟨time, event⟩, he, rfl⟩
    rcases List.mem_append.1 (hperm.mem_iff.1 (List.mem_map_of_mem he)) with hreading | hresult
    · rcases List.mem_map.1 hreading with ⟨error, _, heq⟩
      rw [← heq]
      rfl
    · rcases List.mem_map.1 hresult with ⟨r, hr, heq⟩
      rw [← heq, validated_of_isValid (hvalid r hr)]
      rfl
  have hweighs := htrace.weighs (failureScale_fits validator_ne_crashed) hfailures h.ongoing
  rw [hnone, add_zero, h.weight_of_isEnded failureScale hwired hended] at hweighs
  -- so the counters of the workers add up to zero, and each of them is zero
  have hrecords : (log.records.map failureScale.record).sum = 0 := by simp [failureScale]
  rw [sum_counters_failureScale, hrecords] at hweighs
  have hcount : (g.pool.workers.map Worker.failed).sum = 0 := by omega
  intro w hw
  have hle := List.single_le_sum (fun n _ => Nat.zero_le n) w.failed (List.mem_map_of_mem hw)
  omega

end Flow
end RecordFlow
