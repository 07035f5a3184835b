import RecordFlow.Collector

/-!
# Operations — what can be done to a collector, in any order

A collector is worked on by four operations.  `Collector.performAll` does a list of them in turn,
and the state before and after each is the state that a prefix of the list leads to.
-/

namespace RecordFlow
namespace Collector

/-- Something that is done to a collector. -/
inductive Operation where
  | add (error : FlowError) (record : Option Record) (time : Moment)
  | addAs (category : Category) (error : FlowError) (record : Option Record) (time : Moment)
  | countProcessed
  | clear

/-- The entry that an operation adds where there is room: the error with its record, under its own
category or the one that is named, and as grave and as retryable as the error is. -/
def Operation.added? : Operation → Option Entry
  | .add error record time =>
    some ⟨error, record, time, error.category, error.severity, error.isRetryable⟩
  | .addAs category error record time =>
    some ⟨error, record, time, category, error.severity, error.isRetryable⟩
  | .countProcessed | .clear => none

def Operation.isClear : Operation → Bool
  | .clear => true
  | _ => false

def Operation.isCount : Operation → Bool
  | .countProcessed => true
  | _ => false

@[simp]
theorem Operation.added?_add (error : FlowError) (record : Option Record) (time : Moment) :
    (Operation.add error record time).added? = some (.ofError error record time) := rfl

@[simp]
theorem Operation.added?_addAs (category : Category) (error : FlowError) (record : Option Record)
    (time : Moment) :
    (Operation.addAs category error record time).added? =
      some (.ofCategory category error record time) := rfl

/-- What an operation makes of a collector, and what it answers. -/
def perform (c : Collector) : Operation → Collector × Except FlowError Unit
  | .add error record time => c.add error record time
  | .addAs category error record time => c.addAs category error record time
  | .countProcessed => (c.countProcessed, .ok ())
  | .clear => (c.clear, .ok ())

/-- Operations in turn. -/
def performAll (c : Collector) (ops : List Operation) : Collector :=
  ops.foldl (fun c op => (c.perform op).1) c

@[simp]
theorem performAll_nil (c : Collector) : c.performAll [] = c := rfl

@[simp]
theorem performAll_append (c : Collector) (before after : List Operation) :
    c.performAll (before ++ after) = (c.performAll before).performAll after := by
  simp [performAll]

@[simp]
theorem performAll_singleton (c : Collector) (op : Operation) :
    c.performAll [op] = (c.perform op).1 := rfl

@[simp]
theorem performAll_cons (c : Collector) (op : Operation) (ops : List Operation) :
    c.performAll (op :: ops) = (c.perform op).1.performAll ops := rfl

/-! ## One operation -/

@[simp]
theorem tolerance_evaluate (c : Collector) : c.evaluate.tolerance = c.tolerance := by
  unfold evaluate
  split <;> rfl

@[simp]
theorem rate_evaluate (c : Collector) : c.evaluate.rate = c.rate := by
  unfold evaluate
  split <;> rfl

@[simp]
theorem processed_evaluate (c : Collector) : c.evaluate.processed = c.processed := by
  unfold evaluate
  split <;> rfl

theorem breached_evaluate (c : Collector) : c.evaluate.breached = (c.breached || c.breaks) := by
  unfold evaluate
  cases h : c.breaks <;> simp

theorem cancelled_evaluate (c : Collector) :
    c.evaluate.cancelled = (c.cancelled || c.breaks) := by
  unfold evaluate
  cases h : c.breaks <;> simp

@[simp]
theorem tolerance_push (c : Collector) (e : Entry) : (c.push e).tolerance = c.tolerance := rfl

@[simp]
theorem breached_push (c : Collector) (e : Entry) : (c.push e).breached = c.breached := rfl

@[simp]
theorem cancelled_push (c : Collector) (e : Entry) : (c.push e).cancelled = c.cancelled := rfl

theorem add_cases (c : Collector) (error : FlowError) (record : Option Record) (time : Moment) :
    (c.isFull = true ∧ c.add error record time = (c, .error c.limitReached)) ∨
      (c.isFull = false ∧ ∃ e : Entry, e = .ofError error record time ∧
        c.add error record time = ((c.push e).evaluate,
          if (c.push e).breaks then
            .error (.thresholdExceeded (c.push e).rate c.tolerance.threshold)
          else .ok ())) := by
  cases h : c.isFull with
  | true => exact .inl ⟨rfl, by simp [add, h]⟩
  | false => exact .inr ⟨rfl, _, rfl, by simp [add, h]⟩

theorem addAs_cases (c : Collector) (category : Category) (error : FlowError)
    (record : Option Record) (time : Moment) :
    (c.isFull = true ∧ c.addAs category error record time = (c, .error c.limitReached)) ∨
      (c.isFull = false ∧
        c.addAs category error record time =
          (c.push (.ofCategory category error record time), .ok ())) := by
  cases h : c.isFull with
  | true => exact .inl ⟨rfl, by simp [addAs, h]⟩
  | false => exact .inr ⟨rfl, by simp [addAs, h]⟩

/-- A collector that has counted one more record, before it looks at the threshold. -/
def counted (c : Collector) : Collector := { c with processed := c.processed + 1 }

@[simp]
theorem tolerance_counted (c : Collector) : c.counted.tolerance = c.tolerance := rfl

@[simp]
theorem breached_counted (c : Collector) : c.counted.breached = c.breached := rfl

@[simp]
theorem cancelled_counted (c : Collector) : c.counted.cancelled = c.cancelled := rfl

theorem countProcessed_cases (c : Collector) :
    (c.latest = [] ∧ c.countProcessed = c.counted) ∨
      (c.latest ≠ [] ∧ c.countProcessed = c.counted.evaluate) := by
  cases h : c.latest with
  | nil => exact .inl ⟨rfl, by simp [countProcessed, counted, h]⟩
  | cons e rest => exact .inr ⟨by simp, by simp [countProcessed, counted, h]⟩

@[simp]
theorem tolerance_perform (c : Collector) (op : Operation) :
    (c.perform op).1.tolerance = c.tolerance := by
  cases op with
  | add error record time =>
    rcases c.add_cases error record time with ⟨_, h⟩ | ⟨_, e, _, h⟩
    · simp [perform, h]
    · simp [perform, h]
  | addAs category error record time =>
    rcases c.addAs_cases category error record time with ⟨_, h⟩ | ⟨_, h⟩
    · simp [perform, h]
    · simp [perform, h]
  | countProcessed =>
    rcases c.countProcessed_cases with ⟨_, h⟩ | ⟨_, h⟩
    · simp [perform, h]
    · simp [perform, h]
  | clear => rfl

theorem processed_perform (c : Collector) {op : Operation} (hkeeps : op.isClear = false) :
    (c.perform op).1.processed = c.processed + if op.isCount then 1 else 0 := by
  cases op with
  | add error record time =>
    rcases c.add_cases error record time with ⟨_, h⟩ | ⟨_, e, _, h⟩
    · simp [perform, h, Operation.isCount]
    · simp [perform, h, push, Operation.isCount]
  | addAs category error record time =>
    rcases c.addAs_cases category error record time with ⟨_, h⟩ | ⟨_, h⟩
    · simp [perform, h, Operation.isCount]
    · simp [perform, h, push, Operation.isCount]
  | countProcessed =>
    rcases c.countProcessed_cases with ⟨_, h⟩ | ⟨_, h⟩
    · simp [perform, h, counted, Operation.isCount]
    · simp [perform, h, counted, Operation.isCount]
  | clear => cases hkeeps

@[simp]
theorem tolerance_performAll (c : Collector) (ops : List Operation) :
    (c.performAll ops).tolerance = c.tolerance := by
  induction ops generalizing c with
  | nil => rfl
  | cons op ops ih => rw [performAll_cons, ih, tolerance_perform]

end Collector
end RecordFlow
