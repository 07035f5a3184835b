import Mathlib.Algebra.Order.BigOperators.Group.List
import RecordFlow.Proofs.Pool.Permits

/-!
# Progress — a pool goes on, and not for ever

A worker that has not ended takes its next step unless it waits for a record, a permit or room.
Since permits are held by workers that do not wait, or are dead, the pool as a whole waits only for
records as long as nobody is dead (`Pool.exists_advance`), and otherwise for permits at most that
the dead hold (`Pool.exists_advance_or_starved`).  Every step lessens the work that is left
(`Pool.work_step`).
-/

namespace RecordFlow

/-! ## Work -/

/-- How many steps the streams of a pool can still give rise to. -/
def Pool.streamWork (p : Pool) : Nat :=
  recordWork * p.input.queue.length + p.results.queue.length + p.errors.queue.length

/-- A move lessens the work of the worker and of the streams, taken together. -/
theorem Worker.Moves.work {handler : Handler} {p q : Pool} {w w' : Worker}
    (hmove : w.Moves handler p w' q) :
    q.streamWork + w'.phase.work < p.streamWork + w.phase.work := by
  cases hmove with
  | looks hphase => cases p.scope.cancelled <;> simp [Worker.enter, hphase, Phase.work]
  | takes hphase hqueue =>
    simp only [Pool.streamWork, Pool.recordWork, Worker.enter, hphase, hqueue, Phase.work,
      List.length_cons]
    omega
  | leaves hphase _ _ => simp [Worker.enter, hphase, Phase.work]
  | holds hphase =>
    cases p.scope.cancelled <;> cases hs : p.semaphore <;>
      simp [Worker.enter, hphase, Phase.work]
  | requests hphase => cases p.scope.cancelled <;> simp [Worker.enter, hphase, Phase.work]
  | acquires hphase _ _ => simp [Worker.enter, hphase, Phase.work, Pool.streamWork]
  | crashes hphase _ => simp [Worker.enter, hphase, Phase.work, Pool.streamWork, Pool.disturb]
  | @decides r decision hphase _ =>
    -- the error that may go out is paid for by the phase
    have hafter : ((w.tally decision.isFailed).enter (if p.semaphore.isSome
        then .releasing ⟨r, decision⟩ else .offering ⟨r, decision⟩)).phase.work ≤ 6 := by
      cases p.semaphore <;> simp [Worker.enter, Phase.work]
    have hbefore : w.phase.work = 8 := by simp [hphase, Phase.work]
    have hstreams : ∀ e : Option RecordError,
        ((p.disturb (p.answer handler r)).forwardAny e).streamWork ≤
          p.streamWork + 1 := by
      intro e
      cases e with
      | none => simp [Pool.streamWork, Pool.disturb, Pool.forwardAny]
      | some e =>
        simp only [Pool.streamWork, Pool.disturb, Pool.forwardAny, Option.elim_some,
          Channel.queue_push, List.length_append, List.length_singleton]
        omega
    have hstream := hstreams ((p.answer handler r).verdict.forwarded? r p.hasRoom)
    omega
  | releases hphase _ _ => simp [Worker.enter, hphase, Phase.work, Pool.streamWork]
  | offers hphase => cases p.scope.cancelled <;> simp [Worker.enter, hphase, Phase.work]
  | sends hphase _ =>
    simp only [Pool.streamWork, Worker.enter, hphase, Phase.work, Channel.queue_push,
      List.length_append, List.length_singleton]
    omega
  | quits _ hwaiting =>
    cases hphase : w.phase <;>
      simp_all [Pool.isWaiting, Worker.enter, Phase.work, Pool.streamWork]

namespace Pool

variable {handler : Handler} {p p' : Pool} {w : Worker}

theorem work_eq (p : Pool) :
    p.work = p.streamWork + (p.workers.map fun w => w.phase.work).sum +
      if p.stage = .stopped then 0 else 1 := by
  have hsum : (p.workers.map fun w => w.phase.work).foldr (· + ·) 0 =
      (p.workers.map fun w => w.phase.work).sum := rfl
  unfold work streamWork
  rw [hsum]
  omega

theorem work_step {move : Move} (h : p.step? handler move = some p') : p'.work < p.work := by
  rw [work_eq, work_eq]
  rcases step?_cases h with ⟨_, i, w, w', q, hw, hmove, rfl⟩ | ⟨_, hstage, rfl⟩
  · have hmoved := hmove.work
    -- one place of the list of workers changes
    have hsum := sum_map_set (fun w : Worker => w.phase.work) w' hw
    have hstreams : (q.place i w').streamWork = q.streamWork := rfl
    have hstage : (q.place i w').stage = p.stage := hmove.alike.stage
    rw [hstreams, hstage, hmove.alike.workers_place]
    omega
  · have hstreams : streamWork { p with stage := .stopped } = p.streamWork := rfl
    rw [hstreams, if_neg hstage]
    simp

/-! ## Steps that can be taken -/

/-- Whether a worker need not wait and has not ended. -/
def CanAdvance (p : Pool) (w : Worker) : Prop :=
  match w.phase with
  | .selecting => p.input.queue ≠ [] ∨ p.input.closed = true
  | .waiting _ => ∃ s, p.semaphore = some s ∧ s.held < s.limit
  | .releasing _ => ∃ s, p.semaphore = some s ∧ s.held ≠ 0
  | .sending _ => p.results.offer = .accepted
  | .exited | .dead => False
  | _ => True

theorem advance?_isSome {i : Nat} (hw : p.workers[i]? = some w) (hcan : p.CanAdvance w) :
    (p.advance? handler i).isSome := by
  unfold CanAdvance at hcan
  -- what a phase waits for is there; a phase that waits for nothing always goes on
  cases hphase : w.phase with
  | selecting =>
    rw [hphase] at hcan
    cases hqueue : p.input.queue with
    | cons r rest => simp [advance?, hw, hphase, Channel.receive?, hqueue]
    | nil =>
      have hclosed : p.input.closed = true := by simpa [hqueue] using hcan
      simp [advance?, hw, hphase, Channel.receive?, hqueue, hclosed]
  | waiting r =>
    rw [hphase] at hcan
    rcases hcan with ⟨s, hs, hfree⟩
    simp [advance?, hw, hphase, hs, Semaphore.tryAcquire?, hfree]
  | releasing result =>
    rw [hphase] at hcan
    rcases hcan with ⟨s, hs, hheld⟩
    simp [advance?, hw, hphase, hs, Semaphore.release?, hheld]
  | sending result =>
    rw [hphase] at hcan
    have haccepted : p.results.offer = .accepted := hcan
    simp [advance?, hw, hphase, haccepted]
  | exited | dead =>
    rw [hphase] at hcan
    exact hcan.elim
  | idle | holding | requesting | processing | offering => simp [advance?, hw, hphase]

theorem permits_le_held {s : Semaphore} (hbalanced : p.Balanced) (hs : p.semaphore = some s)
    (hw : w ∈ p.workers) : w.permits ≤ s.held := by
  rw [hbalanced.held s hs]
  exact List.le_sum_of_mem (List.mem_map_of_mem hw)

/-- All permits are handed out, and whoever is left waits for one. -/
structure Starved (p : Pool) : Prop where
  full : ∃ s, p.semaphore = some s ∧ s.limit ≤ s.held
  waits : ∀ w ∈ p.workers, w.isGone = false → ∃ r, w.phase = .waiting r

/-- In a pool that is starved the permits are with the dead. -/
theorem Starved.holders_eq_zero (hstarved : p.Starved) : p.holders = 0 := by
  rw [holders, List.countP_eq_zero]
  intro w hw hholds
  cases hgone : w.isGone with
  | true => cases hphase : w.phase <;> simp_all [Worker.holdsPermit, Worker.isGone]
  | false =>
    rcases hstarved.waits w hw hgone with ⟨r, hphase⟩
    simp [Worker.holdsPermit, hphase] at hholds

/-- A pool with workers left and room for results goes on, unless it waits for records or is
starved. -/
theorem exists_advance_or_starved (handler : Handler) (hbalanced : p.Balanced)
    (hroom : p.results.offer = .accepted) (hgoing : ∃ w ∈ p.workers, w.isGone = false) :
    (∃ i < p.workers.length, (p.advance? handler i).isSome) ∨
      (p.input.queue = [] ∧ p.input.closed = false) ∨ p.Starved := by
  by_cases hcan : ∃ w ∈ p.workers, p.CanAdvance w
  · rcases hcan with ⟨w, hw, hcan⟩
    rcases List.getElem?_of_mem hw with ⟨i, hi⟩
    exact .inl ⟨i, (List.getElem?_eq_some_iff.1 hi).1, advance?_isSome hi hcan⟩
  · have hstuck : ∀ w ∈ p.workers, ¬ p.CanAdvance w := fun w hw h => hcan ⟨w, hw, h⟩
    have hsome : ∀ w ∈ p.workers, w.needsSemaphore = true → ∃ s, p.semaphore = some s := by
      intro w hw hneeds
      cases hs : p.semaphore with
      | some s => exact ⟨s, rfl⟩
      | none =>
        rw [hbalanced.without hs w hw] at hneeds
        cases hneeds
    -- whoever is stuck waits for a record or for a permit
    have hwaits : ∀ w ∈ p.workers, w.isGone = false →
        (p.input.queue = [] ∧ p.input.closed = false) ∨ ∃ r, w.phase = .waiting r := by
      intro w hw hgoing
      have hnot := hstuck w hw
      cases hphase : w.phase with
      | selecting =>
        simp only [CanAdvance, hphase, not_or, not_not, Bool.not_eq_true] at hnot
        exact .inl hnot
      | waiting r => exact .inr ⟨r, rfl⟩
      | releasing result =>
        -- it holds a permit that it can give back
        rcases hsome w hw (by simp [Worker.needsSemaphore, hphase]) with ⟨s, hs⟩
        have hheld := permits_le_held hbalanced hs hw
        have hone : w.permits = 1 := by simp [Worker.permits, hphase]
        simp only [CanAdvance, hphase] at hnot
        exact absurd ⟨s, hs, by omega⟩ hnot
      | sending result => exact absurd hroom (by simpa [CanAdvance, hphase] using hnot)
      | exited | dead => simp [Worker.isGone, hphase] at hgoing
      | idle | holding | requesting | processing | offering =>
        simp [CanAdvance, hphase] at hnot
    by_cases hrecords : p.input.queue = [] ∧ p.input.closed = false
    · exact .inr (.inl hrecords)
    · have hpermits : ∀ w ∈ p.workers, w.isGone = false → ∃ r, w.phase = .waiting r :=
        fun w hw hgoing => (hwaits w hw hgoing).resolve_left hrecords
      -- and a permit that is free would be taken
      rcases hgoing with ⟨w, hw, hgoing⟩
      rcases hpermits w hw hgoing with ⟨r, hphase⟩
      rcases hsome w hw (by simp [Worker.needsSemaphore, hphase]) with ⟨s, hs⟩
      have hnot := hstuck w hw
      simp only [CanAdvance, hphase] at hnot
      exact .inr (.inr ⟨⟨s, hs, Nat.le_of_not_lt fun hfree => hnot ⟨s, hs, hfree⟩⟩, hpermits⟩)

/-- A pool with workers left, none of them dead, and room for results goes on, unless it waits for
records. -/
theorem exists_advance (handler : Handler) (hbalanced : p.Balanced)
    (halive : ∀ w ∈ p.workers, w.phase ≠ .dead) (hroom : p.results.offer = .accepted)
    (hgoing : ∃ w ∈ p.workers, w.isGone = false) :
    (∃ i < p.workers.length, (p.advance? handler i).isSome) ∨
      (p.input.queue = [] ∧ p.input.closed = false) := by
  rcases exists_advance_or_starved handler hbalanced hroom hgoing with
    hadvance | hrecords | hstarved
  · exact .inl hadvance
  · exact .inr hrecords
  · -- nobody would hold the permits that are handed out
    rcases hstarved.full with ⟨s, hs, hfull⟩
    have hdead : p.casualties = 0 := by
      rw [casualties, List.countP_eq_zero]
      intro w hw hdead
      cases hphase : w.phase with
      | dead => exact halive w hw hphase
      | _ => simp [Worker.isDead, hphase] at hdead
    have hheld := hbalanced.held_eq hs
    have hpositive := hbalanced.limit s hs
    rw [hstarved.holders_eq_zero, hdead] at hheld
    omega

end Pool
end RecordFlow
