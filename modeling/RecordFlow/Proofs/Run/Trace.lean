import RecordFlow.Proofs.Ledger.Events
import RecordFlow.Run.Flow

/-!
# Trace — what the moves of a flow leave behind

A flow does not remember what its sources emitted and what its accounts took.  A trace goes through
the moves of a flow and keeps both in a log.

* `Flow.Turns` lists what one move does to a flow, one constructor for each kind of move,
* `Flow.turns_of_step?` says that it does nothing else,
* `Flow.Trace.ledger` says that the accounts depend on what they took, and on nothing else.
-/

namespace RecordFlow

/-- What has happened in a flow: the emissions with the places of their sources, and the events that
were accounted for with their times. -/
structure Log where
  emitted : List (Nat × Source.Emission)
  accounted : List (Moment × Event)

namespace Log

def empty : Log := ⟨[], []⟩

/-- Appends what one move leaves behind. -/
def extend (log : Log) (e : Option (Nat × Source.Emission)) (event : Option (Moment × Event)) :
    Log :=
  ⟨log.emitted ++ e.toList, log.accounted ++ event.toList⟩

end Log

theorem Channel.receive?_cases {α : Type} {c c' : Channel α} {item : α}
    (h : c.receive? = some (item, c')) :
    ∃ rest, c.queue = item :: rest ∧ c' = { c with queue := rest } := by
  unfold Channel.receive? at h
  cases hqueue : c.queue with
  | nil => simp [hqueue] at h
  | cons first rest =>
    have : first = item ∧ { c with queue := rest } = c' := by simpa [hqueue] using h
    rcases this with ⟨rfl, rfl⟩
    exact ⟨rest, rfl, rfl⟩

namespace Flow

/-! ## Moves -/

/-- What a move emits. -/
def emission? (f : Flow) : Move → Option (Nat × Source.Emission)
  | .source i => (f.reading.advance? f.pool.scope f.offer i).bind fun next => next.2.map (i, ·)
  | _ => none

/-- What the accounts take in a move. -/
def event? (f : Flow) : Move → Option (Moment × Event)
  | .result time => f.pool.results.queue.head?.map fun r => (time, .result r)
  | .rejection time => f.rejections.queue.head?.map fun e => (time, .reading e)
  | .forwarded time => f.pool.errors.queue.head?.map fun e => (time, .processing e)
  | _ => none

/-- Puts the emission of a move on its stream, if there is one. -/
def emitAny (f : Flow) (e : Option Source.Emission) : Flow := e.elim f f.emit

/-- What one move does: what it emits, what the accounts take, and the flow that it leads to. -/
inductive Turns (handler : Handler) (f : Flow) :
    Move → Option (Nat × Source.Emission) → Option (Moment × Event) → Flow → Prop where
  | reads {reading : Source.Reading} {e : Option Source.Emission} (i : Nat) :
      f.reading.advance? f.pool.scope f.offer i = some (reading, e) →
      Turns handler f (.source i) (e.map (i, ·)) none ({ f with reading }.emitAny e).close
  | givesUp {reading : Source.Reading} (i : Nat) :
      f.reading.quit? f.pool.scope i = some reading →
      Turns handler f (.sourceQuit i) none none { f with reading }.close
  | works {move : Pool.Move} {pool : Pool} :
      f.pool.step? handler move = some pool →
      Turns handler f (.worker move) none none { f with pool }
  | takesResult {r : Result} {rest : List Result} (time : Moment) :
      f.pool.results.queue = r :: rest →
      Turns handler f (.result time) none (some (time, .result r))
        ({ f with pool.results.queue := rest }.account time (.result r))
  | takesRejection {e : RecordError} {rest : List RecordError} (time : Moment) :
      f.rejections.queue = e :: rest →
      Turns handler f (.rejection time) none (some (time, .reading e))
        ({ f with rejections.queue := rest }.account time (.reading e))
  | takesForwarded {e : RecordError} {rest : List RecordError} (time : Moment) :
      f.pool.errors.queue = e :: rest →
      Turns handler f (.forwarded time) none (some (time, .processing e))
        ({ f with pool.errors.queue := rest }.account time (.processing e))
  | escalates :
      f.ledger.collector.cancelled = true → f.pool.scope.cancelled = false →
      Turns handler f .escalate none none { f with pool := f.pool.cancel }
  | stops : Turns handler f .stop none none { f with pool := f.pool.cancel }

variable {handler : Handler} {f g : Flow}

theorem turns_of_step? {move : Move} (h : f.step? handler move = some g) :
    f.Turns handler move (f.emission? move) (f.event? move) g := by
  cases move with
  | source i =>
    rcases Option.bind_eq_some_iff.1 h with ⟨⟨reading, e⟩, hadvance, hg⟩
    -- what the step emits is read off the same advance
    have hemission : f.emission? (.source i) = e.map (i, ·) := by simp [emission?, hadvance]
    have hnext : ({ f with reading }.emitAny e).close = g := by
      cases e <;> simpa [emitAny] using hg
    rw [hemission, ← hnext]
    exact .reads i hadvance
  | sourceQuit i =>
    rcases Option.bind_eq_some_iff.1 h with ⟨reading, hquit, hg⟩
    cases hg
    exact .givesUp i hquit
  | worker move =>
    rcases Option.map_eq_some_iff.1 h with ⟨pool, hpool, rfl⟩
    exact .works hpool
  | result time =>
    rcases Option.bind_eq_some_iff.1 h with ⟨⟨r, results⟩, hreceive, hg⟩
    rcases Channel.receive?_cases hreceive with ⟨rest, hqueue, rfl⟩
    cases hg
    have hevent : f.event? (.result time) = some (time, .result r) := by simp [event?, hqueue]
    rw [hevent]
    exact .takesResult time hqueue
  | rejection time =>
    rcases Option.bind_eq_some_iff.1 h with ⟨⟨e, rejections⟩, hreceive, hg⟩
    rcases Channel.receive?_cases hreceive with ⟨rest, hqueue, rfl⟩
    cases hg
    have hevent : f.event? (.rejection time) = some (time, .reading e) := by
      simp [event?, hqueue]
    rw [hevent]
    exact .takesRejection time hqueue
  | forwarded time =>
    rcases Option.bind_eq_some_iff.1 h with ⟨⟨e, errors⟩, hreceive, hg⟩
    rcases Channel.receive?_cases hreceive with ⟨rest, hqueue, rfl⟩
    cases hg
    have hevent : f.event? (.forwarded time) = some (time, .processing e) := by
      simp [event?, hqueue]
    rw [hevent]
    exact .takesForwarded time hqueue
  | escalate =>
    have : (f.ledger.collector.cancelled = true ∧ f.pool.scope.cancelled = false) ∧
        { f with pool := f.pool.cancel } = g := by
      simpa [step?, escalate?] using h
    rcases this with ⟨⟨hcollector, hongoing⟩, rfl⟩
    exact .escalates hcollector hongoing
  | stop =>
    cases h
    exact .stops

/-! ## Traces -/

/-- Moves of a flow, with the log of what they leave behind. -/
inductive Trace (handler : Handler) (f : Flow) : Log → Flow → Prop where
  | start : Trace handler f .empty f
  | move {log : Log} {g h : Flow} (m : Move) :
      Trace handler f log g → g.step? handler m = some h →
      Trace handler f (log.extend (g.emission? m) (g.event? m)) h

/-- Every state that a flow reaches has a trace. -/
theorem Reaches.exists_trace (h : Reaches handler f g) : ∃ log, Trace handler f log g := by
  induction h with
  | refl => exact ⟨.empty, .start⟩
  | tail _ hstep ih =>
    rcases ih with ⟨log, htrace⟩
    rcases hstep with ⟨move, hmove⟩
    exact ⟨_, .move move htrace hmove⟩

/-- What holds at the start and is kept by every turn holds along every trace. -/
theorem Trace.induction {P : Log → Flow → Prop} (start : P .empty f)
    (turn : ∀ log g m e event h, Trace handler f log g → g.Turns handler m e event h →
      P log g → P (log.extend e event) h)
    {log : Log} (h : Trace handler f log g) : P log g := by
  induction h with
  | start => exact start
  | move m htrace hstep ih => exact turn _ _ m _ _ _ htrace (turns_of_step? hstep) ih

/-! ## Accounts -/

@[simp]
theorem ledger_close (f : Flow) : f.close.ledger = f.ledger := by
  unfold close
  split <;> rfl

@[simp]
theorem ledger_emitAny (f : Flow) (e : Option Source.Emission) :
    (f.emitAny e).ledger = f.ledger := by
  rcases e with _ | e
  · rfl
  · cases e <;> rfl

theorem Turns.ledger {move : Move} {e : Option (Nat × Source.Emission)}
    {event : Option (Moment × Event)} (h : f.Turns handler move e event g) :
    g.ledger = f.ledger.accountAll event.toList := by
  cases h with
  | reads | givesUp => simp
  | works | escalates | stops => rfl
  | takesResult | takesRejection | takesForwarded => rfl

/-- The accounts are those of the events that they took. -/
theorem Trace.ledger {log : Log} (h : Trace handler f log g) :
    g.ledger = f.ledger.accountAll log.accounted := by
  refine h.induction (P := fun log g => g.ledger = f.ledger.accountAll log.accounted) rfl ?_
  intro log g m e event h _ hturn ih
  rw [hturn.ledger, ih, Log.extend, Ledger.accountAll_append]

end Flow
end RecordFlow
