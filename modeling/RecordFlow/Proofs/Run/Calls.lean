import RecordFlow.Proofs.Pool.Calls
import RecordFlow.Proofs.Run.Undisturbed

/-!
# Calls — the calls of the processor in a run

A trace keeps what the sources emitted and what the accounts took.  To say what becomes of the
answers of the processor, the calls are kept as well, in their order (`Flow.Called`): each of them
has the answer of the processor of its turn (`Flow.Called.answered`).  Books over the calls hold for
the run as a whole, whether or not it is cancelled on the way (`Flow.Called.dwindles`).
-/

namespace RecordFlow

universe u

namespace Flow

variable {handler : Handler} {f g h : Flow} {move : Move} {e : Option (Nat × Source.Emission)}
  {event : Option (Moment × Event)} {log : Log} {calls : List Call}

/-- The call of the processor in a move. -/
def call? (handler : Handler) (f : Flow) : Move → Option Call
  | .worker move => f.pool.call? handler move
  | _ => none

/-- Moves of a flow, with their log and with the calls of the processor. -/
inductive Called (handler : Handler) (f : Flow) : Log → List Call → Flow → Prop where
  | start : Called handler f .empty [] f
  | move {log : Log} {calls : List Call} {g h : Flow} (m : Move) :
      Called handler f log calls g → g.step? handler m = some h →
      Called handler f (log.extend (g.emission? m) (g.event? m))
        (calls ++ (g.call? handler m).toList) h

theorem Called.trace (hcalled : Called handler f log calls g) : Trace handler f log g := by
  induction hcalled with
  | start => exact .start
  | move m _ hstep ih => exact .move m ih hstep

theorem Trace.exists_called (htrace : Trace handler f log g) :
    ∃ calls, Called handler f log calls g := by
  induction htrace with
  | start => exact ⟨[], .start⟩
  | move m _ hstep ih =>
    rcases ih with ⟨calls, hcalled⟩
    exact ⟨_, .move m hcalled hstep⟩

/-! ## Answers -/

theorem Turns.calls_eq (hturn : f.Turns handler move e event g) :
    g.pool.calls = f.pool.calls + (f.call? handler move).toList.length := by
  cases hturn with
  | reads => rw [close_eq, emitAny_eq]; rfl
  | givesUp => rw [close_eq]; rfl
  | works hstep => exact Pool.calls_step hstep
  | takesResult | takesRejection | takesForwarded | escalates | stops => rfl

theorem Called.calls_eq (hcalled : Called handler f log calls g) :
    g.pool.calls = f.pool.calls + calls.length := by
  induction hcalled with
  | start => rfl
  | @move log calls g h m _ hstep ih =>
    rw [(turns_of_step? hstep).calls_eq, ih, List.length_append, Nat.add_assoc]

/-- Only a worker calls the processor, the one of its turn. -/
theorem eq_of_call? {c : Call} (hcall : f.call? handler move = some c) :
    c = ⟨c.record, (f.pool.answer handler c.record).verdict⟩ := by
  cases move with
  | worker move => exact Pool.eq_of_call? hcall
  | _ => cases hcall

/-- Each call has the answer of the processor of its turn; before the flow is cancelled it has seen
the flow going on. -/
theorem Called.answered (hcalled : Called handler f log calls g) :
    ∀ n c, calls[n]? = some c → ∃ cancelled,
      c.verdict = (handler.answer (f.pool.calls + n) cancelled c.record).verdict ∧
      (g.pool.scope.cancelled = false → cancelled = false) := by
  induction hcalled with
  | start => simp
  | @move log calls g h m hbefore hstep ih =>
    have hwas := (turns_of_step? hstep).was_ongoing
    intro n c hc
    by_cases hn : n < calls.length
    · rw [List.getElem?_append_left hn] at hc
      rcases ih n c hc with ⟨cancelled, hverdict, hongoing⟩
      exact ⟨cancelled, hverdict, fun h => hongoing (hwas h)⟩
    · -- the call of the move is numbered behind those before
      rw [List.getElem?_append_right (by omega)] at hc
      cases hcall : g.call? handler m with
      | none => simp [hcall] at hc
      | some last =>
        have hlast : n - calls.length = 0 ∧ last = c := by
          simpa [hcall, List.getElem?_singleton] using hc
        rcases hlast with ⟨hfirst, rfl⟩
        have hturn : g.pool.calls = f.pool.calls + n := by
          rw [hbefore.calls_eq]
          omega
        have hanswer := eq_of_call? hcall
        rw [Pool.answer, hturn] at hanswer
        exact ⟨g.pool.scope.cancelled, congrArg Call.verdict hanswer, hwas⟩

/-! ## Errors of the sources -/

/-- The errors that the sources emitted have been accounted for or wait for it, whether or not the
flow is cancelled. -/
theorem Trace.rejections_eq (htrace : Trace handler f log g) (hstart : f.rejections.queue = []) :
    log.rejections = (log.accounted.filterMap fun e => e.2.reading?) ++ g.rejections.queue := by
  refine htrace.induction (P := fun log g => log.rejections =
    (log.accounted.filterMap fun e => e.2.reading?) ++ g.rejections.queue) ?_ ?_
  · rw [hstart]
    rfl
  · intro log g m e event h _ hturn ih
    have hsilent : ∀ event, (log.extend none event).rejections = log.rejections := by
      intro event
      rw [Log.rejections, Log.emitted_extend_none, Log.rejections]
    cases hturn with
    | reads =>
      rw [close_eq, emitAny_eq, Log.rejections_extend, Log.accounted_extend_none, ih,
        List.append_assoc]
    | givesUp =>
      rw [close_eq, hsilent, Log.accounted_extend_none]
      exact ih
    | works | escalates | stops =>
      rw [hsilent, Log.accounted_extend_none]
      exact ih
    | takesResult | takesForwarded =>
      rw [hsilent, ih]
      simp [Log.extend, account, Event.reading?]
    | takesRejection time hqueue =>
      rw [hsilent, ih, hqueue]
      simp [Log.extend, account, Event.reading?]

/-! ## Books -/

section Books

variable {M : Type u} [AddCancelCommMonoid M] {books : Books M}

/-- A turn keeps the books, up to what is lost under a cancelled scope. -/
theorem Turns.dwindles (hfair : books.Fair) (hturn : f.Turns handler move e event g) :
    Dwindles f.pool.scope.cancelled
      (f.pool.weight books.toScale + emissionWeight books.toScale e +
        books.given (f.call? handler move).toList)
      (g.pool.weight books.toScale + eventWeight books.toScale event +
        books.taken (f.call? handler move).toList) := by
  by_cases hworks : ∃ m, move = .worker m
  · rcases hworks with ⟨m, rfl⟩
    cases hturn with
    | works hstep =>
      have hpool := Pool.dwindles_step hfair hstep
      simpa [emissionWeight, eventWeight, call?] using hpool
  · have hquiet : ∀ m, move ≠ .worker m := fun m hm => hworks ⟨m, hm⟩
    have hnone : f.call? handler move = none := by
      cases move with
      | worker m => exact absurd rfl (hquiet m)
      | _ => rfl
    rw [hnone]
    refine .of_eq ?_
    simpa using (hturn.weight_of_ne_worker hquiet).symm

/-- What was emitted and what the calls gave is in the pool, with the accounts, or was taken by
calls, but for what has been lost; before a flow is cancelled nothing has. -/
theorem Called.dwindles (hfair : books.Fair) (hcalled : Called handler f log calls g)
    (hstart : f.pool.weight books.toScale = 0) :
    Dwindles g.pool.scope.cancelled
      ((log.records.map books.record).sum + books.given calls)
      (g.pool.weight books.toScale + (log.accounted.map fun e => e.2.weight books.toScale).sum +
        books.taken calls) := by
  induction hcalled with
  | start =>
    refine .of_eq ?_
    simp [Log.empty, Log.records, hstart]
  | @move log calls g h m _ hstep ih =>
    have hturn := turns_of_step? hstep
    rcases ih with ⟨before, hbefore, hlogged⟩
    rcases hturn.dwindles hfair with ⟨now, hnow, hbooked⟩
    have hongoing : h.pool.scope.cancelled = false → before + now = 0 := by
      intro hongoing
      rw [hbefore (hturn.was_ongoing hongoing), hnow (hturn.was_ongoing hongoing), add_zero]
    refine ⟨before + now, hongoing, ?_⟩
    rw [sum_records_extend, Books.given_append, Books.taken_append, Log.extend, List.map_append,
      List.sum_append, ← eventWeight]
    -- the turn is booked beside what was booked before
    calc _ = h.pool.weight books.toScale + eventWeight books.toScale (g.event? m) +
            books.taken (g.call? handler m).toList + now +
            ((log.accounted.map fun e => e.2.weight books.toScale).sum + books.taken calls +
              before) := by abel
      _ = g.pool.weight books.toScale +
            (log.accounted.map fun e => e.2.weight books.toScale).sum + books.taken calls +
            before + (emissionWeight books.toScale (g.emission? m) +
              books.given (g.call? handler m).toList) := by
          rw [hbooked]
          abel
      _ = _ := by
          rw [hlogged]
          abel

end Books

end Flow
end RecordFlow
