import Mathlib.Algebra.BigOperators.Group.Multiset.Basic
import Mathlib.Tactic.Abel
import RecordFlow.Proofs.Pool.Steps

/-!
# Conservation — where the records of a pool are

Every record that a pool has been given waits on the stream of records, is with one worker, or has
become a result, and perhaps an error that went out ahead of it.  When records, results and errors
are weighed so that a decision on a record weighs as much as the record, the weight of a pool does
not change as long as the scope is not cancelled and the processor does not break off
(`Pool.weight_step`).  What the weights are is left open: numbers count the records, multisets list
them, and counters of the workers can be put on the scale as well.
-/

namespace RecordFlow

universe u

variable {M : Type u}

/-- What records, results and errors weigh, and the counters of a worker. -/
structure Scale (M : Type u) where
  record : Record → M
  result : Result → M
  error : RecordError → M
  /-- The weight of having processed some records, of which some failed. -/
  counters : Nat → Nat → M

/-- Uncancelled, the processor comes to a decision on every record, and the result together with the
error that it sends ahead and with the counters weighs as much as the record and the counters
before. -/
structure Scale.Fits [AddCommMonoid M] (scale : Scale M) (handler : Handler) : Prop where
  decides : ∀ n r, (handler.answer n false r).verdict ≠ .crashed
  keeps : ∀ n r room decision w,
    (handler.answer n false r).verdict.decision? r room = some decision →
    scale.result ⟨r, decision⟩ +
      (((handler.answer n false r).verdict.forwarded? r room).toList.map scale.error).sum +
        scale.counters (Worker.tally w decision.isFailed).processed
          (Worker.tally w decision.isFailed).failed =
      scale.record r + scale.counters w.processed w.failed

/-- The weight of what a worker has in its hands: a record or the result of one. -/
def Phase.weight [AddCommMonoid M] (scale : Scale M) : Phase → M
  | .holding r | .requesting r | .waiting r | .processing r => scale.record r
  | .releasing result | .offering result | .sending result => scale.result result
  | .idle | .selecting | .exited | .dead => 0

def Worker.weight [AddCommMonoid M] (scale : Scale M) (w : Worker) : M :=
  w.phase.weight scale + scale.counters w.processed w.failed

namespace Pool

/-- The weight of what is on the streams of a pool. -/
def streamWeight [AddCommMonoid M] (scale : Scale M) (p : Pool) : M :=
  (p.input.queue.map scale.record).sum + (p.results.queue.map scale.result).sum +
    (p.errors.queue.map scale.error).sum

def weight [AddCommMonoid M] (scale : Scale M) (p : Pool) : M :=
  p.streamWeight scale + (p.workers.map (Worker.weight scale)).sum

/-- What the processor does to the run weighs nothing, and an error that goes out weighs what it
does. -/
theorem streamWeight_forwardAny [AddCommMonoid M] (scale : Scale M) (p : Pool)
    (response : Response) (e : Option RecordError) :
    ((p.disturb response).forwardAny e).streamWeight scale =
      p.streamWeight scale + (e.toList.map scale.error).sum := by
  cases e with
  | none => simp [streamWeight, disturb, forwardAny]
  | some e => simp [streamWeight, disturb, forwardAny, add_assoc]

end Pool

variable [AddCancelCommMonoid M] {scale : Scale M} {handler : Handler}

/-- The weight of the streams and that of the worker are together the same before and after a
move. -/
theorem Worker.Moves.weight (hfits : scale.Fits handler) {p q : Pool} {w w' : Worker}
    (hongoing : p.scope.cancelled = false) (hmove : w.Moves handler p w' q) :
    q.streamWeight scale + w'.weight scale = p.streamWeight scale + w.weight scale := by
  cases hmove with
  | looks hphase => simp [Worker.enter, Worker.weight, Phase.weight, hphase, hongoing]
  | takes hphase hqueue =>
    simp only [Worker.enter, Worker.weight, Phase.weight, hphase, Pool.streamWeight, hqueue,
      List.map_cons, List.sum_cons]
    abel
  | leaves hphase _ _ => simp [Worker.enter, Worker.weight, Phase.weight, hphase]
  | holds hphase =>
    cases hs : p.semaphore <;> simp [Worker.enter, Worker.weight, Phase.weight, hphase, hongoing]
  | requests hphase => simp [Worker.enter, Worker.weight, Phase.weight, hphase, hongoing]
  | acquires hphase _ _ =>
    simp [Worker.enter, Worker.weight, Phase.weight, hphase, Pool.streamWeight]
  | @crashes r hphase hverdict =>
    -- a crash would lose the record
    rw [Pool.answer, hongoing] at hverdict
    exact absurd hverdict (hfits.decides p.calls r)
  | @decides r decision hphase hdecision =>
    rw [Pool.answer, hongoing] at hdecision
    -- the record turns into its result, the error sent ahead, and the count of both
    have hkeeps := hfits.keeps p.calls r _ _ w hdecision
    have hresult : ((w.tally decision.isFailed).enter
        (if p.semaphore.isSome then .releasing ⟨r, decision⟩ else .offering ⟨r, decision⟩)).weight
          scale = scale.result ⟨r, decision⟩ +
            scale.counters (w.tally decision.isFailed).processed
              (w.tally decision.isFailed).failed := by
      cases p.semaphore <;> rfl
    have hrecord : w.weight scale = scale.record r + scale.counters w.processed w.failed := by
      simp [Worker.weight, Phase.weight, hphase]
    rw [hresult, hrecord, ← hkeeps, Pool.answer, hongoing, Pool.streamWeight_forwardAny]
    abel
  | releases hphase _ _ =>
    simp [Worker.enter, Worker.weight, Phase.weight, hphase, Pool.streamWeight]
  | offers hphase => simp [Worker.enter, Worker.weight, Phase.weight, hphase, hongoing]
  | sends hphase _ =>
    simp only [Worker.enter, Worker.weight, Phase.weight, hphase, Pool.streamWeight,
      Channel.queue_push, List.map_append, List.map_cons, List.map_nil, List.sum_append,
      List.sum_cons, List.sum_nil]
    abel
  | quits hcancelled _ =>
    rw [hongoing] at hcancelled
    cases hcancelled

namespace Pool

theorem weight_step (hfits : scale.Fits handler) {p p' : Pool} {move : Move}
    (hongoing : p.scope.cancelled = false) (h : p.step? handler move = some p') :
    p'.weight scale = p.weight scale := by
  rcases step?_cases h with ⟨_, i, w, w', q, hw, hmove, rfl⟩ | ⟨_, _, rfl⟩
  · have hmoved := hmove.weight hfits hongoing
    have hworkers := hmove.alike.workers
    have hsum := sum_map_set (Worker.weight scale) w' hw
    rw [← hworkers] at hsum
    have hstreams : (q.place i w').streamWeight scale = q.streamWeight scale := rfl
    -- the hands of the worker that moved are weighed on both sides
    refine add_right_cancel (b := w.weight scale) ?_
    calc (q.place i w').weight scale + w.weight scale
        = q.streamWeight scale +
            (((q.workers.set i w').map (Worker.weight scale)).sum + w.weight scale) := by
          rw [Pool.weight, hstreams, place, add_assoc]
      _ = (q.streamWeight scale + w'.weight scale) +
            (q.workers.map (Worker.weight scale)).sum := by
          rw [hsum]
          abel
      _ = p.weight scale + w.weight scale := by
          rw [hmoved, hworkers, Pool.weight]
          abel
  · rfl

end Pool

/-! ## Failures -/

/-- A failed result weighs as much as a failure on the counter of a worker, on the other side. -/
def failureScale : Scale Int where
  record _ := 0
  result r := if r.decision.isFailed then -1 else 0
  error _ := 0
  counters _ failed := failed

theorem failureScale_fits {handler : Handler}
    (hdecides : ∀ n r, (handler.answer n false r).verdict ≠ .crashed) :
    failureScale.Fits handler where
  decides := hdecides
  keeps n r room decision w _ := by
    cases hfailed : decision.isFailed <;> simp [failureScale, Worker.tally, hfailed]

theorem sum_counters_failureScale (workers : List Worker) :
    (workers.map fun w => failureScale.counters w.processed w.failed).sum =
      ((workers.map Worker.failed).sum : Nat) := by
  rw [← Nat.coe_castRingHom, map_list_sum, List.map_map]
  rfl

/-- Singletons add up to the multiset of their elements. -/
theorem sum_map_singleton {α β : Type} (f : α → β) (l : List α) :
    (l.map fun a => ({f a} : Multiset β)).sum = (l.map f : Multiset β) := by
  induction l with
  | nil => rfl
  | cons a l ih => rw [List.map_cons, List.sum_cons, ih, List.map_cons]; rfl

end RecordFlow
