import RecordFlow.Proofs.Run.Progress

/-!
# Shutdown — a cancelled flow comes to its end

Nothing that waits can hold up a cancelled flow: a worker or a source that waits gives up, one that
compares headers is let go, and a permit that is to be given back is one that is held.  So whatever
the processor has done, and however many workers it has taken along, a cancelled flow has a move
until it has ended (`Flow.Wired.exists_move_of_cancelled`), and the schedule leads it there
(`Flow.Wired.settle_ended_of_cancelled`).
-/

namespace RecordFlow

/-! ## Parts of a cancelled flow -/

/-- Under a cancelled scope a worker that has not ended takes a step or gives up. -/
theorem Pool.leaves_of_cancelled (handler : Handler) {p : Pool} (hbalanced : p.Balanced)
    (hcancelled : p.scope.cancelled = true) {i : Nat} {w : Worker} (hw : p.workers[i]? = some w)
    (hgoing : w.isGone = false) :
    (p.advance? handler i).isSome ∨ (p.quit? i).isSome := by
  have hmem : w ∈ p.workers := List.mem_of_getElem? hw
  have hadvance : p.CanAdvance w → (p.advance? handler i).isSome := fun hcan =>
    advance?_isSome hw hcan
  cases hphase : w.phase with
  | selecting | waiting | sending => exact .inr (by simp [quit?, hw, hcancelled, isWaiting, hphase])
  | releasing result =>
    -- the worker holds the permit that it gives back
    have hsome : p.semaphore ≠ none := by
      intro hnone
      have hneeds := hbalanced.without hnone w hmem
      simp [Worker.needsSemaphore, hphase] at hneeds
    rcases Option.ne_none_iff_exists'.1 hsome with ⟨s, hs⟩
    have hheld := permits_le_held hbalanced hs hmem
    have hone : w.permits = 1 := by simp [Worker.permits, hphase]
    have hcan : p.CanAdvance w := by
      simp only [CanAdvance, hphase]
      exact ⟨s, hs, by omega⟩
    exact .inl (hadvance hcan)
  | idle | holding | requesting | processing | offering =>
    exact .inl (hadvance (by simp [CanAdvance, hphase]))
  | exited | dead => simp [Worker.isGone, hphase] at hgoing

namespace Source

theorem Reading.leaves_of_cancelled (r : Reading) {scope : Scope}
    (hcancelled : scope.cancelled = true) (offer : Emission → Offer) {i : Nat} {t : Task}
    (ht : r.tasks[i]? = some t) (hgoing : t.isFinished = false) :
    (r.advance? scope offer i).isSome ∨ (r.quit? scope i).isSome := by
  cases t with
  | sending e rest => exact .inr (by simp [quit?, ht, hcancelled])
  | comparing o =>
    cases hknown : agreement (r.slots.take i) <;>
      exact .inl (by simp [advance?, ht, hknown, hcancelled])
  | finished => cases hgoing
  | opening | reading | offering | closing => exact .inl (by simp [advance?, ht])

end Source

/-! ## The flow -/

namespace Flow

variable {handler : Handler} {f g : Flow}

/-- A cancelled flow that has not ended has a move among those that the schedule tries. -/
theorem Wired.exists_move_of_cancelled (handler : Handler) (time : Moment) (hwired : f.Wired)
    (hcancelled : f.pool.scope.cancelled = true) (hended : f.isEnded = false) :
    ∃ move ∈ f.candidates time, (f.step? handler move).isSome := by
  cases hresults : f.pool.results.queue with
  | cons r rest =>
    exact ⟨.result time, by simp [candidates],
      by simp [step?, result?, Channel.receive?, hresults]⟩
  | nil =>
  cases hrejections : f.rejections.queue with
  | cons e rest =>
    exact ⟨.rejection time, by simp [candidates],
      by simp [step?, rejection?, Channel.receive?, hrejections]⟩
  | nil =>
  cases herrors : f.pool.errors.queue with
  | cons e rest =>
    exact ⟨.forwarded time, by simp [candidates],
      by simp [step?, forwarded?, Channel.receive?, herrors]⟩
  | nil =>
  by_cases hworking : ∃ w ∈ f.pool.workers, w.isGone = false
  · rcases hworking with ⟨w, hw, hgoing⟩
    rcases List.getElem?_of_mem hw with ⟨i, hi⟩
    have hplace := (List.getElem?_eq_some_iff.1 hi).1
    rcases f.pool.leaves_of_cancelled handler hwired.balanced hcancelled hi hgoing with
      hstep | hstep
    · exact ⟨.worker (.advance i), by simp [candidates, hplace],
        by simpa [step?, Pool.step?, hwired.started] using hstep⟩
    · exact ⟨.worker (.quit i), by simp [candidates, hplace],
        by simpa [step?, Pool.step?, hwired.started] using hstep⟩
  by_cases hreading : ∃ t ∈ f.reading.tasks, t.isFinished = false
  · rcases hreading with ⟨t, ht, hgoing⟩
    rcases List.getElem?_of_mem ht with ⟨i, hi⟩
    have hplace := (List.getElem?_eq_some_iff.1 hi).1
    rcases f.reading.leaves_of_cancelled hcancelled f.offer hi hgoing with hstep | hstep
    · rcases Option.isSome_iff_exists.1 hstep with ⟨next, hnext⟩
      exact ⟨.source i, by simp [candidates, hplace], by simp [step?, source?, hnext]⟩
    · rcases Option.isSome_iff_exists.1 hstep with ⟨next, hnext⟩
      exact ⟨.sourceQuit i, by simp [candidates, hplace], by simp [step?, sourceQuit?, hnext]⟩
  -- then everything has ended
  have hgone : ∀ w ∈ f.pool.workers, w.isGone = true := by simpa using hworking
  have hfinished : f.reading.isFinished = true := by
    simpa [Source.Reading.isFinished] using hreading
  have hall := hwired.isEnded_iff.2 ⟨hfinished, hgone, hrejections, hresults, herrors⟩
  cases hall.symm.trans hended

theorem next?_follow_eq_none {time : Moment} {fuel : Nat} (hfuel : f.work ≤ fuel) :
    (f.follow handler time fuel).next? handler time = none := by
  have hless : ∀ f g : Flow, f.next? handler time = some g → g.work < f.work := by
    intro f g hnext
    rcases List.exists_of_findSome?_eq_some hnext with ⟨move, hmove, hstep⟩
    exact (turns_of_step? hstep).work_lt (ne_stop_of_mem_candidates hmove)
  -- on the fuel: a move lessens the work, so that the fuel outlasts it
  induction fuel generalizing f with
  | zero =>
    cases hnext : f.next? handler time with
    | none => exact hnext
    | some g =>
      have := hless f g hnext
      omega
  | succ fuel ih =>
    cases hnext : f.next? handler time with
    | none =>
      rw [follow, hnext]
      exact hnext
    | some g =>
      have := hless f g hnext
      rw [follow, hnext]
      exact ih (by omega)

/-- If a flow is cancelled when the schedule comes to rest, it has ended. -/
theorem Wired.settle_ended_of_cancelled {time : Moment} (hwired : (f.settle handler time).Wired)
    (hcancelled : (f.settle handler time).pool.scope.cancelled = true) :
    (f.settle handler time).isEnded = true := by
  cases hended : (f.settle handler time).isEnded with
  | true => rfl
  | false =>
    rcases hwired.exists_move_of_cancelled handler time hcancelled hended with
      ⟨move, hmove, hstep⟩
    have hrest : (f.settle handler time).next? handler time = none :=
      next?_follow_eq_none le_rfl
    rw [List.findSome?_eq_none_iff.1 hrest move hmove] at hstep
    cases hstep

end Flow
end RecordFlow
