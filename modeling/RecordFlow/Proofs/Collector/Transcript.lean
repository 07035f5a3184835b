import Mathlib.Data.List.DropRight
import RecordFlow.Proofs.Collector.Operations

/-!
# Transcript — what a collector holds, told by its answers

The transcript of some operations is the operations with the answers to them.  It tells what the
collector holds in the end without a look at its state: the errors since it was last cleared that
were not turned away, in their order, and the number of records counted since then.  An error is
turned away exactly when a limit is reached, and then the collector stays as it is; an answer that
the threshold is exceeded is given to an error that was taken in.

* `entries_perform_kept` and `count_perform_le` say what one operation does,
* `holds_accepted_errors` says what the transcript of some operations tells.
-/

namespace RecordFlow
namespace Collector

/-! ## Operations and answers -/

/-- An operation, and the answer to it. -/
abbrev Step := Operation × Except FlowError Unit

/-- Operations in turn, with the answers to them. -/
def transcript (c : Collector) : List Operation → List Step
  | [] => []
  | op :: ops => (op, (c.perform op).2) :: (c.perform op).1.transcript ops

/-- The steps behind the last one that cleared the collector. -/
def sinceClear (steps : List Step) : List Step := steps.rtakeWhile fun step => !step.1.isClear

/-- Whether the answer to an error is that it was turned away. -/
def isRefusal : Except FlowError Unit → Bool
  | .error (.limitReached _) => true
  | _ => false

/-- The entry that a step leaves behind, if it brings an error that was not turned away. -/
def kept? (step : Step) : Option Entry := if isRefusal step.2 then none else step.1.added?

theorem transcript_append_singleton (c : Collector) (ops : List Operation) (last : Operation) :
    c.transcript (ops ++ [last]) =
      c.transcript ops ++ [(last, ((c.performAll ops).perform last).2)] := by
  induction ops generalizing c with
  | nil => rfl
  | cons op ops ih =>
    rw [List.cons_append, transcript, ih, performAll_cons]
    rfl

theorem sinceClear_append_singleton (steps : List Step) (last : Step) :
    sinceClear (steps ++ [last]) =
      if last.1.isClear then [] else sinceClear steps ++ [last] := by
  rw [sinceClear, List.rtakeWhile_concat]
  cases last.1.isClear <;> rfl

theorem eq_clear_of_isClear {op : Operation} (hclear : op.isClear = true) : op = .clear := by
  cases op with
  | clear => rfl
  | add | addAs | countProcessed => cases hclear

/-- An operation that brings an error does nothing else. -/
theorem kind_of_added? {op : Operation} (hbrings : op.added?.isSome = true) :
    op.isClear = false ∧ op.isCount = false := by
  cases op with
  | add | addAs => exact ⟨rfl, rfl⟩
  | countProcessed | clear => cases hbrings

/-! ## One operation -/

/-- Errors are turned away when the limit is reached, and then the collector stays as it is. -/
theorem perform_of_isFull {c : Collector} (hfull : c.isFull = true) {op : Operation}
    (hbrings : op.added?.isSome = true) :
    c.perform op = (c, .error (.limitReached c.tolerance.maxErrors)) := by
  cases op with
  | add error record time => simp [perform, add, hfull, limitReached]
  | addAs category error record time => simp [perform, addAs, hfull, limitReached]
  | countProcessed | clear => cases hbrings

/-- Before the limit is reached nothing is turned away. -/
theorem answer_of_not_isFull {c : Collector} (hroom : c.isFull = false) (op : Operation) :
    isRefusal (c.perform op).2 = false := by
  cases op with
  | add error record time =>
    cases hbreaks : (c.push (.ofError error record time)).breaks <;>
      simp [perform, add, hroom, hbreaks, isRefusal]
  | addAs category error record time => simp [perform, addAs, hroom, isRefusal]
  | countProcessed | clear => rfl

theorem kept?_of_isFull {c : Collector} (hfull : c.isFull = true) (op : Operation) :
    kept? (op, (c.perform op).2) = none := by
  cases op with
  | add | addAs =>
    rw [perform_of_isFull hfull rfl]
    rfl
  | countProcessed | clear => rfl

theorem kept?_of_not_isFull {c : Collector} (hroom : c.isFull = false) (op : Operation) :
    kept? (op, (c.perform op).2) = op.added? := by
  rw [kept?, answer_of_not_isFull hroom]
  rfl

/-- What an operation adds to the entries can be told from the answer. -/
theorem entries_perform_kept (c : Collector) {op : Operation} (hkeeps : op.isClear = false) :
    (c.perform op).1.entries = c.entries ++ (kept? (op, (c.perform op).2)).toList := by
  cases hfull : c.isFull with
  | true =>
    rw [kept?_of_isFull hfull]
    cases op with
    | add | addAs =>
      rw [perform_of_isFull hfull rfl]
      simp
    | countProcessed => simp [perform]
    | clear => cases hkeeps
  | false =>
    rw [kept?_of_not_isFull hfull]
    cases op with
    | add error record time => simp [perform, add, hfull]
    | addAs category error record time => simp [perform, addAs, hfull]
    | countProcessed => simp [perform, Operation.added?]
    | clear => cases hkeeps

/-- No operation takes a collector beyond its limit. -/
theorem count_perform_le {c : Collector} (hlimit : 0 < c.tolerance.maxErrors)
    (hcount : c.count ≤ c.tolerance.maxErrors) (op : Operation) :
    (c.perform op).1.count ≤ c.tolerance.maxErrors := by
  cases hclear : op.isClear with
  | true =>
    cases eq_clear_of_isClear hclear
    exact Nat.zero_le _
  | false =>
    have hentries := congrArg List.length (c.entries_perform_kept hclear)
    rw [length_entries, List.length_append, length_entries] at hentries
    -- at most one entry more, and only where there was room for it
    cases hfull : c.isFull with
    | true =>
      rw [kept?_of_isFull hfull] at hentries
      exact hentries.trans_le hcount
    | false =>
      have hroom : c.count < c.tolerance.maxErrors := by simpa [isFull, hlimit] using hfull
      have hone := Option.length_toList_le (o := kept? (op, (c.perform op).2))
      omega

/-! ## Operations in turn -/

variable (tolerance : Tolerance) (ops : List Operation)

/-- The entries are what the steps since the collector was cleared have left behind. -/
theorem entries_eq_kept :
    ((empty tolerance).performAll ops).entries =
      (sinceClear ((empty tolerance).transcript ops)).filterMap kept? := by
  -- from the last operation, which leaves an entry or clears them all
  induction ops using List.reverseRecOn with
  | nil => rfl
  | append_singleton ops last ih =>
    rw [performAll_append, performAll_singleton, transcript_append_singleton,
      sinceClear_append_singleton]
    cases hclear : last.isClear with
    | true =>
      cases eq_clear_of_isClear hclear
      rfl
    | false =>
      rw [entries_perform_kept _ hclear, ih, if_neg Bool.false_ne_true, List.filterMap_append]
      cases hkept : kept? (last, (((empty tolerance).performAll ops).perform last).2) with
      | none => simp [hkept]
      | some entry => simp [hkept]

theorem processed_eq_countP :
    ((empty tolerance).performAll ops).processed =
      (sinceClear ((empty tolerance).transcript ops)).countP fun step => step.1.isCount := by
  induction ops using List.reverseRecOn with
  | nil => rfl
  | append_singleton ops last ih =>
    rw [performAll_append, performAll_singleton, transcript_append_singleton,
      sinceClear_append_singleton]
    cases hclear : last.isClear with
    | true =>
      cases eq_clear_of_isClear hclear
      rfl
    | false =>
      rw [processed_perform _ hclear, ih, if_neg Bool.false_ne_true, List.countP_append,
        List.countP_singleton]

theorem count_performAll_le (hlimit : 0 < tolerance.maxErrors) :
    ((empty tolerance).performAll ops).count ≤ tolerance.maxErrors := by
  induction ops using List.reverseRecOn with
  | nil => exact Nat.zero_le _
  | append_singleton ops last ih =>
    have htolerance : ((empty tolerance).performAll ops).tolerance = tolerance :=
      tolerance_performAll _ ops
    have hlast := count_perform_le (c := (empty tolerance).performAll ops) (by rwa [htolerance])
      (by rwa [htolerance]) last
    rwa [htolerance, ← performAll_singleton, ← performAll_append] at hlast

/-- Errors are turned away with the limit exactly when a limit is reached. -/
theorem answer_eq_limitReached_iff {c : Collector} {op : Operation}
    (hbrings : op.added?.isSome = true) (limit : Nat) :
    (c.perform op).2 = .error (.limitReached limit) ↔
      c.isFull = true ∧ limit = c.tolerance.maxErrors := by
  cases hfull : c.isFull with
  | true =>
    rw [perform_of_isFull hfull hbrings]
    simp [eq_comm]
  | false =>
    have hanswer := answer_of_not_isFull hfull op
    constructor
    · intro h
      rw [h] at hanswer
      cases hanswer
    · rintro ⟨h, _⟩
      cases h

/-- A collector is a capped log of the errors that it was given.  After any operations it holds the
errors since it was last cleared that were not turned away, in their order, and it has counted the
records since then; it never holds more than a limit.  An error is turned away exactly when the
limit is reached, and then nothing at all changes; any other is taken in, whatever the answer. -/
theorem holds_accepted_errors (tolerance : Tolerance) (ops : List Operation) :
    let c := (empty tolerance).performAll ops
    let steps := sinceClear ((empty tolerance).transcript ops)
    c.entries = steps.filterMap kept? ∧
      c.processed = steps.countP (fun step => step.1.isCount) ∧
      (0 < tolerance.maxErrors → c.count ≤ tolerance.maxErrors) ∧
      ∀ op entry, op.added? = some entry →
        (∀ limit, (c.perform op).2 = .error (.limitReached limit) ↔
          limit = tolerance.maxErrors ∧ 0 < tolerance.maxErrors ∧
            c.count = tolerance.maxErrors) ∧
        (0 < tolerance.maxErrors ∧ c.count = tolerance.maxErrors → (c.perform op).1 = c) ∧
        (¬(0 < tolerance.maxErrors ∧ c.count = tolerance.maxErrors) →
          (c.perform op).1.entries = c.entries ++ [entry] ∧
            (c.perform op).1.processed = c.processed) := by
  intro c steps
  have htolerance : c.tolerance = tolerance := tolerance_performAll _ ops
  have hcount : 0 < tolerance.maxErrors → c.count ≤ tolerance.maxErrors :=
    count_performAll_le tolerance ops
  -- a limit that is reached is a limit that is met, since it is never exceeded
  have hfull : c.isFull = true ↔
      0 < tolerance.maxErrors ∧ c.count = tolerance.maxErrors := by
    rw [isFull, htolerance]
    simp only [Bool.and_eq_true, decide_eq_true_eq]
    constructor
    · rintro ⟨hlimit, hle⟩
      exact ⟨hlimit, Nat.le_antisymm (hcount hlimit) hle⟩
    · rintro ⟨hlimit, heq⟩
      exact ⟨hlimit, heq.ge⟩
  refine ⟨entries_eq_kept tolerance ops, processed_eq_countP tolerance ops, hcount, ?_⟩
  intro op entry hentry
  have hbrings : op.added?.isSome = true := by rw [hentry]; rfl
  refine ⟨?_, ?_, ?_⟩
  · intro limit
    rw [answer_eq_limitReached_iff hbrings, hfull, htolerance, and_comm]
  · intro hreached
    rw [perform_of_isFull (hfull.2 hreached) hbrings]
  · intro hroom
    -- below the limit the error is taken in, and the count of records is left alone
    have hopen : c.isFull = false := by
      rw [← Bool.not_eq_true, hfull]
      exact hroom
    rcases kind_of_added? hbrings with ⟨hkeeps, hcounts⟩
    refine ⟨?_, ?_⟩
    · rw [entries_perform_kept c hkeeps, kept?_of_not_isFull hopen, hentry]
      rfl
    · rw [processed_perform c hkeeps, hcounts]
      rfl

/-- A limit of two errors and a threshold of one half. -/
def twoAndHalf : Tolerance := ⟨2, .ofRatio false 1 2, true⟩

/-- An error is forgotten, the next one exceeds the threshold, and a third one fills the
collector. -/
def exceededAndFilled : List Operation :=
  [.add .timeout none ⟨0, 0⟩, .clear, .countProcessed,
    .add (.processing "bad") (some ⟨2, "a.csv", ["x"], none⟩) ⟨1, 0⟩,
    .addAs .io .timeout none ⟨2, 0⟩]

/-- The error that was answered with the threshold is held, under its own category, and the one
behind it under the category that was named.  The next error is turned away. -/
theorem holds_exceededAndFilled :
    ((empty twoAndHalf).performAll exceededAndFilled).entries =
        [⟨.processing "bad", some ⟨2, "a.csv", ["x"], none⟩, ⟨1, 0⟩, .processing,
            FlowError.severity (.processing "bad"), FlowError.isRetryable (.processing "bad")⟩,
          ⟨.timeout, none, ⟨2, 0⟩, .io, FlowError.severity .timeout,
            FlowError.isRetryable .timeout⟩] ∧
      (((empty twoAndHalf).performAll exceededAndFilled).perform
        (.add .emptyFile none ⟨3, 0⟩)).1 = (empty twoAndHalf).performAll exceededAndFilled ∧
      (((empty twoAndHalf).performAll exceededAndFilled).perform
        (.add .emptyFile none ⟨3, 0⟩)).2 = .error (.limitReached 2) := by
  have hholds := holds_accepted_errors twoAndHalf exceededAndFilled
  have hreached : ((empty twoAndHalf).performAll exceededAndFilled).count = 2 := by decide +kernel
  have hlast := hholds.2.2.2 (.add .emptyFile none ⟨3, 0⟩) _ rfl
  have hsame := hlast.2.1 ⟨by decide, hreached⟩
  have hanswer := (hlast.1 2).2 ⟨rfl, by decide, hreached⟩
  exact ⟨hholds.1.trans (by decide +kernel), hsame, hanswer⟩

end Collector
end RecordFlow
