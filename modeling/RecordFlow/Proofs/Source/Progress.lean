import Mathlib.Algebra.GroupWithZero.Nat
import RecordFlow.Proofs.Places
import RecordFlow.Proofs.Source.Stream
import RecordFlow.Run.Schedule

/-!
# Progress — a reading comes to its end

Every move of a task lessens the work that the task can still give rise to, by more than what the
emission of the move will cost downstream.  With a task that never waits for another one and streams
that have room, a session can therefore always be completed without cancelling anything.
-/

namespace RecordFlow
namespace Source

/-- How many moves an emission can still give rise to once it is on its stream. -/
def Emission.onwardWork : Emission → Nat
  | .record _ => Pool.recordWork
  | _ => 1

namespace Task

theorem work_givenUp_le (options : Options) (e : Emission) : (givenUp e).work options ≤ 1 := by
  cases e <;> simp [givenUp, work]

theorem work_delivered_le (options : Options) (e : Emission) (rest : List Emission) :
    (delivered e rest).work options ≤ 3 + emissionWork * rest.length := by
  cases e <;> simp [delivered, work]

theorem work_afterLook_lt (options : Options) (cancelled : Bool) (rest : List Emission) :
    (afterLook cancelled rest).work options < 3 + emissionWork * rest.length := by
  rcases rest with _ | ⟨e, rest⟩
  · simp [afterLook, work]
  · rw [List.length_cons, Nat.mul_add_one]
    simp only [emissionWork]
    cases cancelled with
    | true => simp [afterLook, work]; omega
    | false => cases e <;> simp [afterLook, work, emissionWork] <;> omega

/-- A move lessens the work of a task, and pays for what it emits. -/
theorem Moves.work_lt {options : Options} {cancelled : Bool} {known : Agreement}
    {offer : Emission → Offer} {t t' : Task} {slot : Option Slot} {e : Option Emission}
    (hmove : t.Moves options cancelled known offer t' slot e) :
    t'.work options + e.elim 0 Emission.onwardWork < t.work options := by
  -- an emission takes less work to be carried on than the step to it sets free
  cases hmove with
  | openFails | openShares | openAlone | agrees | differs | ends | reports =>
    simp only [work, Option.elim_none, List.length_nil]
    omega
  | looks rest => exact work_afterLook_lt options cancelled rest
  | offers e rest =>
    have hgiven := work_givenUp_le options e
    have hbefore : (offering e rest).work options = 16 + emissionWork * rest.length := rfl
    cases cancelled with
    | true => simp only [if_true, Option.elim_none]; omega
    | false => simp [work]
  | @delivers e rest _ =>
    have hdelivered := work_delivered_le options e rest
    have hbefore : (sending e rest).work options = 15 + emissionWork * rest.length := rfl
    have honward : e.onwardWork ≤ 11 := by cases e <;> simp [Emission.onwardWork, Pool.recordWork]
    simp only [Option.elim_some]
    omega
  | @loses e rest _ | @quits e rest _ =>
    have hgiven := work_givenUp_le options e
    have hbefore : (sending e rest).work options = 15 + emissionWork * rest.length := rfl
    simp only [Option.elim_none]
    omega

end Task

namespace Reading

/-- The work that all tasks of a reading can still give rise to. -/
def work (r : Reading) : Nat := (r.tasks.map (Task.work r.options)).sum

theorem work_place_lt {r : Reading} {cancelled : Bool} {known : Agreement}
    {offer : Emission → Offer} {i : Nat} {t t' : Task} {slot : Option Slot} {e : Option Emission}
    (ht : r.tasks[i]? = some t) (hmove : t.Moves r.options cancelled known offer t' slot e) :
    (r.place i t' slot).work + e.elim 0 Emission.onwardWork < r.work := by
  have hsum := sum_map_set (Task.work r.options) t' ht
  have hlt := hmove.work_lt
  simp only [work, place]
  omega

end Reading

namespace Session

variable {options : Options} {sources : List (Except FlowError Opened)} {s : Session}

/-- An undisturbed session goes on to its end when its streams have room. -/
theorem exists_completes_of_reaches (h : Reaches (ofSources options sources) s)
    (hongoing : s.scope.cancelled = false) (hattended : s.attended = true) :
    ∃ s' : Session, Reaches s s' ∧ s'.Completes options sources := by
  generalize hwork : s.reading.work = work
  -- on the work that is left; the earliest task that has not ended takes the next step
  induction work using Nat.strong_induction_on generalizing s with
  | _ work ih =>
    cases hfinished : s.reading.isFinished with
    | true => exact ⟨s, .refl, h, hfinished, hongoing, hattended⟩
    | false =>
      rcases exists_earliest_unfinished hfinished with ⟨i, t, ht, hgoing, hbefore⟩
      have hwaits := not_waits_of_ended_before h hbefore
      have hsome : (s.reading.advance? s.scope (fun _ => .accepted) i).isSome :=
        advance?_isSome ht hgoing hwaits (by simp)
      rcases Option.isSome_iff_exists.1 hsome with ⟨⟨reading, e⟩, hstep⟩
      have hnext := Step.advance i (fun _ => .accepted) (by simp) hstep
      have hless : reading.work < work := by
        rcases Reading.advance?_cases hstep with ⟨t₁, t', slot, ht₁, hmove, rfl⟩
        have := Reading.work_place_lt ht₁ hmove
        omega
      rcases ih _ hless (h.tail hnext) hongoing hattended rfl with ⟨s', hreach, hcompletes⟩
      exact ⟨s', .head hnext hreach, hcompletes⟩

/-- Every list of sources can be read undisturbed to its end. -/
theorem exists_completes (options : Options) (sources : List (Except FlowError Opened)) :
    ∃ s : Session, s.Completes options sources := by
  rcases exists_completes_of_reaches (.refl : Reaches (ofSources options sources) _) rfl rfl with
    ⟨s, _, hcompletes⟩
  exact ⟨s, hcompletes⟩

end Session

end Source
end RecordFlow
