import RecordFlow.Proofs.Pool.Conservation

/-!
# Calls — what goes through the processor

The processor is called for one record at a time.  A call takes the record out of the hands of a
worker, and gives what it leads to: a result, and perhaps an error that goes out ahead.  Books over
the records, the results and the errors of a pool, and over its calls, balance with every step as
long as the scope goes on, even when the processor breaks off; under a cancelled scope something may
be lost, but nothing is gained (`Pool.dwindles_step`).
-/

namespace RecordFlow

universe u

/-! ## Calls -/

/-- A call of the processor: the record that it looked at, and what it answered. -/
structure Call where
  record : Record
  verdict : Verdict

/-- The error that a call has to be collected for, with its record. -/
def Call.failure? (c : Call) : Option RecordError :=
  match c.verdict with
  | .failed error => some ⟨error, some c.record⟩
  | .errored error =>
    some ⟨.context "process" c.record.source c.record.line error, some c.record⟩
  | _ => none

/-- The call that a worker of a pool makes in its next step. -/
def Worker.call? (handler : Handler) (p : Pool) (w : Worker) : Option Call :=
  w.processing?.map fun r => ⟨r, (p.answer handler r).verdict⟩

theorem Worker.call?_of_outside {handler : Handler} {p : Pool} {w : Worker}
    (houtside : ∀ r, w.phase ≠ .processing r) : w.call? handler p = none := by
  cases hphase : w.phase with
  | processing r => exact absurd hphase (houtside r)
  | _ => simp [call?, processing?, hphase]

/-- Whoever waits is not in the processor. -/
theorem Worker.ne_processing_of_isWaiting {w : Worker} (hwaiting : Pool.isWaiting w = true)
    (r : Record) : w.phase ≠ .processing r := by
  intro hphase
  simp [Pool.isWaiting, hphase] at hwaiting

namespace Pool

/-- The call that is made in a step of a pool. -/
def call? (handler : Handler) (p : Pool) : Move → Option Call
  | .advance i => p.workers[i]?.bind (Worker.call? handler p)
  | _ => none

/-- A call has the answer of the processor that it meets. -/
theorem eq_of_call? {handler : Handler} {p : Pool} {move : Move} {c : Call}
    (h : p.call? handler move = some c) : c = ⟨c.record, (p.answer handler c.record).verdict⟩ := by
  cases move with
  | advance i =>
    rcases Option.bind_eq_some_iff.1 h with ⟨w, _, hw⟩
    rcases Option.map_eq_some_iff.1 hw with ⟨r, _, rfl⟩
    rfl
  | quit | retire => cases h

/-- A step of a pool is a move of a worker with its call, or the retirement without one. -/
theorem call?_cases {handler : Handler} {p p' : Pool} {move : Move}
    (h : p.step? handler move = some p') :
    (∃ (i : Nat) (w w' : Worker) (q : Pool), p.workers[i]? = some w ∧
      w.Moves handler p w' q ∧ p' = q.place i w' ∧
      p.call? handler move = w.call? handler p) ∨
    (p.call? handler move = none ∧ p' = { p with stage := .stopped }) := by
  cases move with
  | advance i =>
    rcases advance?_cases (advance?_of_step? h).2 with ⟨w, w', q, hw, hmove, rfl⟩
    exact .inl ⟨i, w, w', q, hw, hmove, rfl, by simp [call?, hw]⟩
  | quit i =>
    rcases Option.bind_eq_some_iff.1 (quit?_of_step? h).2 with ⟨w, hw, hleaves⟩
    have hleaves : (p.scope.cancelled = true ∧ isWaiting w = true) ∧
        p.setPhase i .exited = p' := by simpa using hleaves
    rcases hleaves with ⟨⟨hcancelled, hwaiting⟩, rfl⟩
    have hsilent : w.call? handler p = none :=
      w.call?_of_outside (w.ne_processing_of_isWaiting hwaiting)
    exact .inl ⟨i, w, _, p, hw, .quits hcancelled hwaiting, setPhase_eq_place hw _,
      hsilent.symm⟩
  | retire => exact .inr ⟨rfl, (retire_of_step? h).2.2⟩

end Pool

/-- A worker in the processor calls it, and no other does. -/
theorem Worker.Moves.calls {handler : Handler} {p q : Pool} {w w' : Worker}
    (hmove : w.Moves handler p w' q) : q.calls = p.calls + (w.call? handler p).toList.length := by
  have hcall : ∀ r, w.phase = .processing r → (w.call? handler p).toList.length = 1 := by
    intro r hphase
    simp [call?, processing?, hphase]
  cases hmove with
  | crashes hphase _ | decides hphase _ => rw [hcall _ hphase]; rfl
  | quits _ hwaiting =>
    rw [w.call?_of_outside (w.ne_processing_of_isWaiting hwaiting)]
    rfl
  | looks hphase | leaves hphase _ _ | holds hphase | requests hphase | offers hphase
  | takes hphase _ | acquires hphase _ _ | releases hphase _ _ | sends hphase _ =>
    simp [call?, processing?, hphase]

/-- A pool counts its calls. -/
theorem Pool.calls_step {handler : Handler} {p p' : Pool} {move : Move}
    (h : p.step? handler move = some p') :
    p'.calls = p.calls + (p.call? handler move).toList.length := by
  rcases call?_cases h with ⟨i, w, w', q, hw, hmove, rfl, hcall⟩ | ⟨hcall, rfl⟩
  · rw [hcall]
    exact hmove.calls
  · rw [hcall]
    rfl

/-! ## Losses -/

/-- What is there after, together with what has been lost, is what was there before; nothing is lost
as long as the scope goes on. -/
def Dwindles {M : Type u} [AddCommMonoid M] (cancelled : Bool) (before after : M) : Prop :=
  ∃ lost : M, (cancelled = false → lost = 0) ∧ after + lost = before

namespace Dwindles

variable {M : Type u} [AddCommMonoid M] {cancelled : Bool} {a b : M}

theorem of_eq (h : a = b) : Dwindles cancelled a b := ⟨0, fun _ => rfl, by rw [add_zero, h]⟩

/-- Under a cancelled scope anything may be lost. -/
theorem lose (a b : M) : Dwindles true (a + b) a :=
  ⟨b, fun hongoing => absurd hongoing (by decide), rfl⟩

theorem eq_of_ongoing (h : Dwindles cancelled a b) (hongoing : cancelled = false) : b = a := by
  rcases h with ⟨lost, hlost, rfl⟩
  rw [hlost hongoing, add_zero]

end Dwindles

/-! ## Books -/

/-- What records, results and errors weigh, and what a call takes out of the pool and gives it. -/
structure Books (M : Type u) extends Scale M where
  takes : Call → M
  gives : Call → M

namespace Books

variable {M : Type u} [AddCommMonoid M]

/-- What calls take out of the pool. -/
def taken (books : Books M) (calls : List Call) : M := (calls.map books.takes).sum

/-- What calls give to the pool. -/
def given (books : Books M) (calls : List Call) : M := (calls.map books.gives).sum

@[simp]
theorem taken_nil (books : Books M) : books.taken [] = 0 := rfl

@[simp]
theorem given_nil (books : Books M) : books.given [] = 0 := rfl

@[simp]
theorem taken_singleton (books : Books M) (c : Call) : books.taken [c] = books.takes c :=
  List.sum_singleton

@[simp]
theorem given_singleton (books : Books M) (c : Call) : books.given [c] = books.gives c :=
  List.sum_singleton

theorem taken_append (books : Books M) (before after : List Call) :
    books.taken (before ++ after) = books.taken before + books.taken after := by
  rw [taken, List.map_append, List.sum_append]
  rfl

theorem given_append (books : Books M) (before after : List Call) :
    books.given (before ++ after) = books.given before + books.given after := by
  rw [given, List.map_append, List.sum_append]
  rfl

end Books

/-- The books are fair if a call takes the record and gives what it leads to; counters of workers
are of no weight. -/
structure Books.Fair {M : Type u} [AddCommMonoid M] (books : Books M) : Prop where
  decides : ∀ (v : Verdict) (r : Record) (room : Bool) (decision : Decision),
    v.decision? r room = some decision →
      books.result ⟨r, decision⟩ + ((v.forwarded? r room).toList.map books.error).sum +
        books.takes ⟨r, v⟩ = books.record r + books.gives ⟨r, v⟩
  crashes : ∀ r, books.takes ⟨r, .crashed⟩ = books.record r + books.gives ⟨r, .crashed⟩
  counters : ∀ processed failed, books.counters processed failed = 0

/-- Records weigh themselves, and a call takes its record. -/
def calledBooks : Books (Multiset Record) where
  record r := {r}
  result _ := 0
  error _ := 0
  counters _ _ := 0
  takes c := {c.record}
  gives _ := 0

theorem calledBooks_fair : calledBooks.Fair where
  decides v r room decision _ := by
    cases v.forwarded? r room <;> simp [calledBooks]
  crashes _ := by simp [calledBooks]
  counters _ _ := rfl

theorem taken_calledBooks (calls : List Call) :
    calledBooks.taken calls = (calls.map Call.record : Multiset Record) :=
  sum_map_singleton Call.record calls

theorem given_calledBooks (calls : List Call) : calledBooks.given calls = 0 := by
  simp [Books.given, calledBooks]

section Moves

variable {M : Type u} [AddCancelCommMonoid M] {books : Books M} {handler : Handler}
  {p q : Pool} {w w' : Worker}

theorem Worker.weight_of_fair (hfair : books.Fair) (w : Worker) :
    w.weight books.toScale = w.phase.weight books.toScale := by
  rw [weight, hfair.counters, add_zero]

/-- A worker that goes on keeps what it has in its hands, and loses it when it leaves. -/
theorem Worker.dwindles_enter (hfair : books.Fair) (cancelled : Bool) (rest : M) {phase : Phase}
    (hkept : phase.weight books.toScale = w.phase.weight books.toScale) :
    Dwindles cancelled (rest + w.weight books.toScale)
      (rest + (w.enter (if cancelled then .exited else phase)).weight books.toScale) := by
  rw [w.weight_of_fair hfair, Worker.weight_of_fair hfair]
  cases cancelled with
  | false => exact .of_eq (by rw [← hkept]; rfl)
  | true =>
    have hlost := Dwindles.lose rest (w.phase.weight books.toScale)
    simpa [Worker.enter, Phase.weight] using hlost

/-- Outside of the processor nothing comes to the books but what is lost. -/
theorem Worker.Moves.dwindles_outside (hfair : books.Fair) (hmove : w.Moves handler p w' q)
    (houtside : ∀ r, w.phase ≠ .processing r) :
    Dwindles p.scope.cancelled (p.streamWeight books.toScale + w.weight books.toScale)
      (q.streamWeight books.toScale + w'.weight books.toScale) := by
  have hbefore := w.weight_of_fair hfair
  have hafter := w'.weight_of_fair hfair
  cases hmove with
  | crashes hphase _ | decides hphase _ => exact absurd hphase (houtside _)
  | looks hphase | requests hphase | offers hphase =>
    refine Worker.dwindles_enter hfair _ _ ?_
    simp [hphase, Phase.weight]
  | holds hphase =>
    refine Worker.dwindles_enter hfair _ _ ?_
    cases p.semaphore <;> simp [hphase, Phase.weight]
  | leaves hphase _ _ | acquires hphase _ _ | releases hphase _ _ =>
    rw [hbefore, hafter]
    exact .of_eq (by simp [Worker.enter, Phase.weight, hphase, Pool.streamWeight])
  | takes hphase hqueue =>
    -- the record goes from the stream into the hands of the worker
    refine .of_eq ?_
    rw [hbefore, hafter]
    simp only [Worker.enter, Phase.weight, hphase, Pool.streamWeight, hqueue, List.map_cons,
      List.sum_cons]
    abel
  | sends hphase _ =>
    refine .of_eq ?_
    rw [hbefore, hafter]
    simp only [Worker.enter, Phase.weight, hphase, Pool.streamWeight, Channel.queue_push,
      List.map_append, List.map_cons, List.map_nil, List.sum_append, List.sum_cons, List.sum_nil]
    abel
  | quits hcancelled hwaiting =>
    rw [hcancelled]
    exact Worker.dwindles_enter (w := w) hfair true (p.streamWeight books.toScale) rfl

/-- A call turns a record into its result and the error sent ahead, or takes it along. -/
theorem Worker.Moves.balances_call (hfair : books.Fair) (hmove : w.Moves handler p w' q)
    {r : Record} (hphase : w.phase = .processing r) :
    q.streamWeight books.toScale + w'.weight books.toScale +
        books.takes ⟨r, (p.answer handler r).verdict⟩ =
      p.streamWeight books.toScale + w.weight books.toScale +
        books.gives ⟨r, (p.answer handler r).verdict⟩ := by
  have hrecord : w.phase.weight books.toScale = books.record r := by simp [Phase.weight, hphase]
  rw [w.weight_of_fair hfair, w'.weight_of_fair hfair, hrecord]
  cases hmove with
  | crashes hphase' hverdict =>
    cases hphase.symm.trans hphase'
    rw [hverdict]
    simp [Worker.enter, Phase.weight, Pool.streamWeight, Pool.disturb, hfair.crashes, add_assoc]
  | @decides _ decision hphase' hdecision =>
    cases hphase.symm.trans hphase'
    have hdecides := hfair.decides _ r _ decision hdecision
    have hresult : ((w.tally decision.isFailed).enter
        (if p.semaphore.isSome then .releasing ⟨r, decision⟩
          else .offering ⟨r, decision⟩)).phase.weight books.toScale =
            books.result ⟨r, decision⟩ := by
      cases p.semaphore <;> rfl
    rw [hresult, Pool.streamWeight_forwardAny, add_assoc _ (books.record r), ← hdecides]
    abel
  | quits _ hwaiting => exact absurd hphase (w.ne_processing_of_isWaiting hwaiting r)
  | looks hother | takes hother _ | leaves hother _ _ | holds hother | requests hother
  | acquires hother _ _ | releases hother _ _ | offers hother | sends hother _ =>
    cases hphase.symm.trans hother

/-- A move of a worker keeps the books, up to what is lost under a cancelled scope. -/
theorem Worker.Moves.dwindles (hfair : books.Fair) (hmove : w.Moves handler p w' q) :
    Dwindles p.scope.cancelled
      (p.streamWeight books.toScale + w.weight books.toScale +
        books.given (w.call? handler p).toList)
      (q.streamWeight books.toScale + w'.weight books.toScale +
        books.taken (w.call? handler p).toList) := by
  by_cases hinside : ∃ r, w.phase = .processing r
  · rcases hinside with ⟨r, hphase⟩
    have hcall : w.call? handler p = some ⟨r, (p.answer handler r).verdict⟩ := by
      simp [call?, processing?, hphase]
    rw [hcall, Option.toList_some, Books.given_singleton, Books.taken_singleton]
    exact .of_eq (hmove.balances_call hfair hphase).symm
  · have houtside : ∀ r, w.phase ≠ .processing r := fun r hphase => hinside ⟨r, hphase⟩
    have hdwindles := hmove.dwindles_outside hfair houtside
    simpa [w.call?_of_outside houtside] using hdwindles

/-- A step of a pool keeps the books, up to what is lost under a cancelled scope. -/
theorem Pool.dwindles_step (hfair : books.Fair) {p' : Pool} {move : Move}
    (h : p.step? handler move = some p') :
    Dwindles p.scope.cancelled
      (p.weight books.toScale + books.given (p.call? handler move).toList)
      (p'.weight books.toScale + books.taken (p.call? handler move).toList) := by
  rcases call?_cases h with ⟨i, w, w', q, hw, hmove, rfl, hcall⟩ | ⟨hcall, rfl⟩
  · rcases hmove.dwindles hfair with ⟨lost, hlost, hmoved⟩
    have hworkers := hmove.alike.workers
    have hsum := sum_map_set (Worker.weight books.toScale) w' hw
    rw [← hworkers] at hsum
    have hstreams : (q.place i w').streamWeight books.toScale = q.streamWeight books.toScale := rfl
    refine ⟨lost, hlost, ?_⟩
    -- the hands of the worker that moved are weighed on both sides
    refine add_right_cancel (b := w.weight books.toScale) ?_
    rw [hcall]
    calc (q.place i w').weight books.toScale +
            books.taken (w.call? handler p).toList + lost +
            w.weight books.toScale
        = q.streamWeight books.toScale +
            (((q.workers.set i w').map (Worker.weight books.toScale)).sum +
              w.weight books.toScale) +
            books.taken (w.call? handler p).toList + lost := by
          rw [Pool.weight, hstreams, place]
          abel
      _ = q.streamWeight books.toScale + w'.weight books.toScale +
            books.taken (w.call? handler p).toList + lost +
            (q.workers.map (Worker.weight books.toScale)).sum := by
          rw [hsum]
          abel
      _ = p.weight books.toScale +
            books.given (w.call? handler p).toList +
            w.weight books.toScale := by
          rw [hmoved, hworkers, Pool.weight]
          abel
  · rw [hcall]
    exact .of_eq rfl

end Moves

end RecordFlow
