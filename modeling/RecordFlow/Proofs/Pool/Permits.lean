import Mathlib.Algebra.Order.Ring.Nat
import RecordFlow.Proofs.Pool.Steps

/-!
# Permits — who holds what of the semaphore of a pool

A worker holds a permit while it is in the processor and until it has given the permit back; a
worker that its processor takes along keeps it for good.  These are all the permits that are handed
out, whatever the processor does and whether or not the scope is cancelled (`Pool.Balanced.step`).
-/

namespace RecordFlow

namespace Worker

/-- The permits that a worker of a pool with a semaphore holds. -/
def permits (w : Worker) : Nat :=
  match w.phase with
  | .processing _ | .releasing _ | .dead => 1
  | _ => 0

/-- Whether a worker is between taking a permit and giving it back. -/
def holdsPermit (w : Worker) : Bool :=
  match w.phase with
  | .processing _ | .releasing _ => true
  | _ => false

def isDead (w : Worker) : Bool :=
  match w.phase with
  | .dead => true
  | _ => false

/-- Whether a worker is in a phase that only a pool with a semaphore has. -/
def needsSemaphore (w : Worker) : Bool :=
  match w.phase with
  | .requesting _ | .waiting _ | .releasing _ => true
  | _ => false

end Worker

/-- The permits that a pool has handed out are those that its workers hold. -/
structure Pool.Balanced (p : Pool) : Prop where
  held : ∀ s, p.semaphore = some s → s.held = (p.workers.map Worker.permits).sum
  limit : ∀ s, p.semaphore = some s → 0 < s.limit
  without : p.semaphore = none → ∀ w ∈ p.workers, w.needsSemaphore = false

namespace Pool

/-- The number of live workers that hold a permit. -/
def holders (p : Pool) : Nat := p.workers.countP Worker.holdsPermit

/-- The number of workers that were taken along by their processor. -/
def casualties (p : Pool) : Nat := p.workers.countP Worker.isDead

/-- Permits are with the living that have not given them back, and with the dead. -/
theorem Balanced.held_eq {p : Pool} (hbalanced : p.Balanced) {s : Semaphore}
    (hs : p.semaphore = some s) : s.held = p.holders + p.casualties := by
  have hsum : ∀ workers : List Worker, (workers.map Worker.permits).sum =
      workers.countP Worker.holdsPermit + workers.countP Worker.isDead := by
    intro workers
    induction workers with
    | nil => rfl
    | cons w rest ih =>
      have hone : w.permits =
          (if w.holdsPermit then 1 else 0) + if w.isDead then 1 else 0 := by
        cases hphase : w.phase <;>
          simp [Worker.permits, Worker.holdsPermit, Worker.isDead, hphase]
      rw [List.map_cons, List.sum_cons, ih, hone, List.countP_cons, List.countP_cons]
      omega
  exact (hbalanced.held s hs).trans (hsum p.workers)

end Pool

/-- Permits that a move takes or gives back are booked with the semaphore. -/
theorem Worker.Moves.permits {handler : Handler} {p q : Pool} {w w' : Worker}
    (hmove : w.Moves handler p w' q) :
    q.workers = p.workers ∧ (q.semaphore = none ↔ p.semaphore = none) ∧
    (p.semaphore = none → w.needsSemaphore = false → w'.needsSemaphore = false) ∧
    ∀ s, p.semaphore = some s → ∃ t, q.semaphore = some t ∧ t.limit = s.limit ∧
      t.held + w.permits = s.held + w'.permits := by
  cases hmove with
  | looks hphase =>
    refine ⟨rfl, Iff.rfl, fun _ _ => ?_, fun s hs => ⟨s, hs, rfl, ?_⟩⟩ <;>
      cases p.scope.cancelled <;>
      simp [Worker.needsSemaphore, Worker.permits, Worker.enter, hphase]
  | takes hphase _ =>
    refine ⟨rfl, Iff.rfl, fun _ _ => rfl, fun s hs => ⟨s, hs, rfl, ?_⟩⟩
    simp [Worker.permits, Worker.enter, hphase]
  | leaves hphase _ _ =>
    refine ⟨rfl, Iff.rfl, fun _ _ => rfl, fun s hs => ⟨s, hs, rfl, ?_⟩⟩
    simp [Worker.permits, Worker.enter, hphase]
  | holds hphase =>
    refine ⟨rfl, Iff.rfl, fun hnone _ => ?_, fun s hs => ⟨s, hs, rfl, ?_⟩⟩
    · cases p.scope.cancelled <;> simp [Worker.needsSemaphore, Worker.enter, hnone]
    · cases p.scope.cancelled <;> simp [Worker.permits, Worker.enter, hphase, hs]
  | requests hphase =>
    refine ⟨rfl, Iff.rfl, fun _ hneeds => ?_, fun s hs => ⟨s, hs, rfl, ?_⟩⟩
    · simp [Worker.needsSemaphore, hphase] at hneeds
    · cases p.scope.cancelled <;> simp [Worker.permits, Worker.enter, hphase]
  | acquires hphase hsome _ =>
    -- the permit goes from the semaphore to the worker
    refine ⟨rfl, by simp [hsome], fun hnone => ?_, fun s hs => ?_⟩
    · rw [hsome] at hnone
      cases hnone
    · cases Option.some_inj.1 (hsome.symm.trans hs)
      exact ⟨_, rfl, rfl, by simp [Worker.permits, Worker.enter, hphase]⟩
  | crashes hphase _ =>
    refine ⟨rfl, Iff.rfl, fun _ _ => rfl, fun s hs => ⟨s, hs, rfl, ?_⟩⟩
    simp [Worker.permits, Worker.enter, hphase]
  | decides hphase _ =>
    refine ⟨rfl, Iff.rfl, fun hnone _ => ?_, fun s hs => ⟨s, hs, rfl, ?_⟩⟩
    · simp [Worker.needsSemaphore, Worker.enter, hnone]
    · simp [Worker.permits, Worker.enter, hphase, hs]
  | releases hphase hsome hheld =>
    -- and back
    refine ⟨rfl, by simp [hsome], fun _ _ => rfl, fun s hs => ?_⟩
    cases Option.some_inj.1 (hsome.symm.trans hs)
    refine ⟨_, rfl, rfl, ?_⟩
    simp only [Worker.permits, Worker.enter, hphase]
    omega
  | offers hphase =>
    refine ⟨rfl, Iff.rfl, fun _ _ => ?_, fun s hs => ⟨s, hs, rfl, ?_⟩⟩ <;>
      cases p.scope.cancelled <;>
      simp [Worker.needsSemaphore, Worker.permits, Worker.enter, hphase]
  | sends hphase _ =>
    refine ⟨rfl, Iff.rfl, fun _ _ => rfl, fun s hs => ⟨s, hs, rfl, ?_⟩⟩
    simp [Worker.permits, Worker.enter, hphase]
  | quits _ hwaiting =>
    refine ⟨rfl, Iff.rfl, fun _ _ => rfl, fun s hs => ⟨s, hs, rfl, ?_⟩⟩
    cases hphase : w.phase <;>
      simp_all [Worker.permits, Worker.enter, Pool.isWaiting]

namespace Pool

variable {handler : Handler} {p p' : Pool}

/-- The books are those of the semaphore and the workers alone. -/
theorem Balanced.congr (hbalanced : p.Balanced) (hsemaphore : p'.semaphore = p.semaphore)
    (hworkers : p'.workers = p.workers) : p'.Balanced := by
  refine ⟨?_, ?_, ?_⟩
  · rw [hsemaphore, hworkers]
    exact hbalanced.held
  · rw [hsemaphore]
    exact hbalanced.limit
  · rw [hsemaphore, hworkers]
    exact hbalanced.without

theorem Balanced.step (hbalanced : p.Balanced) {move : Move}
    (h : p.step? handler move = some p') : p'.Balanced := by
  rcases step?_cases h with ⟨_, i, w, w', q, hw, hmove, rfl⟩ | ⟨_, _, rfl⟩
  · rcases hmove.permits with ⟨hworkers, hnone, hneeds, hpermits⟩
    have hmem : w ∈ p.workers := List.mem_of_getElem? hw
    have hsum := sum_map_set Worker.permits w' hw
    have hafter : (q.place i w').workers = p.workers.set i w' := by rw [place, hworkers]
    -- the sum over the workers changes by what the semaphore books
    have hbooks : ∀ t, q.semaphore = some t →
        t.held = ((p.workers.set i w').map Worker.permits).sum ∧ 0 < t.limit := by
      intro t ht
      cases hs : p.semaphore with
      | none => rw [hnone.2 hs] at ht; cases ht
      | some s =>
        rcases hpermits s hs with ⟨t', ht', hlimit, hheld⟩
        rw [ht] at ht'
        cases ht'
        have hbefore := hbalanced.held s hs
        have hpositive := hbalanced.limit s hs
        constructor <;> omega
    refine ⟨fun t ht => ?_, fun t ht => (hbooks t ht).2, fun ht w₁ hw₁ => ?_⟩
    · rw [hafter]
      exact (hbooks t ht).1
    · have hp : p.semaphore = none := hnone.1 ht
      rw [hafter] at hw₁
      rcases List.mem_or_eq_of_mem_set hw₁ with hw₁ | rfl
      · exact hbalanced.without hp w₁ hw₁
      · exact hneeds hp (hbalanced.without hp w hmem)
  · exact hbalanced.congr rfl rfl

theorem balanced_ofOptions (options : PoolOptions) (scope : Scope) (input : Channel Record) :
    (ofOptions options scope input).Balanced := by
  refine ⟨?_, ?_, ?_⟩
  · intro s hs
    rcases Option.map_eq_some_iff.1 hs with ⟨limit, _, rfl⟩
    simp [ofOptions, Worker.initial, Worker.permits, Semaphore.ofLimit]
  · intro s hs
    rcases Option.map_eq_some_iff.1 hs with ⟨limit, _, rfl⟩
    simp [Semaphore.ofLimit]
  · intro _ w hw
    rcases List.mem_replicate.1 hw with ⟨_, rfl⟩
    rfl

/-! ## The cap -/

/-- A pool has the semaphore that its layout asks for, and no more permits are handed out than that
has. -/
structure Capped (limit? : Option Nat) (p : Pool) : Prop where
  limit : p.semaphore.map Semaphore.limit = limit?
  held : ∀ s, p.semaphore = some s → s.held ≤ s.limit

end Pool

theorem Worker.Moves.capped {handler : Handler} {p q : Pool} {w w' : Worker}
    {limit? : Option Nat} (hmove : w.Moves handler p w' q) (hcapped : p.Capped limit?) :
    q.Capped limit? := by
  cases hmove with
  | @acquires _ s _ hsome hfree =>
    -- a permit is only taken when one is free
    refine ⟨?_, ?_⟩
    · have hlimit := hcapped.limit
      rwa [hsome] at hlimit
    · rintro t ⟨⟩
      exact hfree
  | @releases _ s _ hsome _ =>
    refine ⟨?_, ?_⟩
    · have hlimit := hcapped.limit
      rwa [hsome] at hlimit
    · rintro t ⟨⟩
      exact (Nat.sub_le _ _).trans (hcapped.held s hsome)
  | _ => exact ⟨hcapped.limit, hcapped.held⟩

namespace Pool

variable {handler : Handler} {p p' : Pool} {limit? : Option Nat}

theorem Capped.step (hcapped : p.Capped limit?) {move : Move}
    (h : p.step? handler move = some p') : p'.Capped limit? := by
  rcases step?_cases h with ⟨_, i, w, w', q, _, hmove, rfl⟩ | ⟨_, _, rfl⟩
  · have hafter := hmove.capped hcapped
    exact ⟨hafter.limit, hafter.held⟩
  · exact ⟨hcapped.limit, hcapped.held⟩

theorem capped_ofOptions (options : PoolOptions) (scope : Scope) (input : Channel Record) :
    (ofOptions options scope input).Capped options.activeLimit? := by
  refine ⟨?_, ?_⟩
  · -- a cap of zero is no cap, so that the semaphore keeps to the cap
    cases hlimit : options.activeLimit? with
    | none => simp [ofOptions, hlimit]
    | some limit =>
      have hpositive : limit ≠ 0 := by
        rintro rfl
        unfold PoolOptions.activeLimit? at hlimit
        split at hlimit <;> simp_all
      simp only [ofOptions, hlimit, Option.map_some, Semaphore.ofLimit, Option.some.injEq]
      omega
  · intro s hs
    rcases Option.map_eq_some_iff.1 hs with ⟨limit, _, rfl⟩
    exact Nat.zero_le _

/-- The records that are in the processor. -/
def active (p : Pool) : List Record := p.workers.filterMap Worker.processing?

theorem length_active_le (p : Pool) : p.active.length ≤ (p.workers.map Worker.permits).sum := by
  have hworkers : ∀ workers : List Worker,
      (workers.filterMap Worker.processing?).length ≤ (workers.map Worker.permits).sum := by
    intro workers
    induction workers with
    | nil => simp
    | cons w rest ih =>
      cases hrecord : w.processing? with
      | none =>
        rw [List.filterMap_cons_none hrecord, List.map_cons, List.sum_cons]
        exact ih.trans (Nat.le_add_left _ _)
      | some r =>
        -- whoever processes holds a permit
        have hpermit : w.permits = 1 := by
          unfold Worker.processing? at hrecord
          split at hrecord <;> simp_all [Worker.permits]
        rw [List.filterMap_cons_some hrecord, List.map_cons, List.sum_cons, List.length_cons]
        omega
  exact hworkers p.workers

/-- There are never more records in the processor than the cap says. -/
theorem Capped.length_active_le {limit : Nat} (hcapped : p.Capped (some limit))
    (hbalanced : p.Balanced) : p.active.length ≤ limit := by
  rcases Option.map_eq_some_iff.1 hcapped.limit with ⟨s, hs, rfl⟩
  calc p.active.length
      ≤ (p.workers.map Worker.permits).sum := p.length_active_le
    _ = s.held := (hbalanced.held s hs).symm
    _ ≤ s.limit := hcapped.held s hs

end Pool
end RecordFlow
