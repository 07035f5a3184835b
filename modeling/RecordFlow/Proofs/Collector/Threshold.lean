import RecordFlow.Proofs.Collector.Operations
import RecordFlow.Proofs.Fold
import RecordFlow.Proofs.Number.Order

/-!
# Threshold — when a collector is breached

The rate of errors moves up and down: an error raises it, a counted record lowers it or, when it is
the first one behind an early error, raises it from zero, and `clear` takes it back to zero.  A
breach is noted when an operation that looks at the threshold leaves the rate above it, and it
stays.

`Collector.breached_perform` is what one operation does to the breach, and
`Collector.breached_performAll_iff` is what a list of operations does.
-/

namespace RecordFlow

def Tolerance.isEnforced (t : Tolerance) : Bool :=
  t.enforced && Binary64.blt .zero t.threshold

namespace Collector

/-- Whether the rate of errors is above the threshold.  A rate that is no number, for which there
have to be more records than a word can count, is above every threshold. -/
def isAbove (c : Collector) : Bool :=
  Binary64.blt c.tolerance.threshold c.rate || c.rate.isNaN

/-- Whether an operation looks at the threshold: an error that is taken in, or a record that is
counted. -/
def looks (c : Collector) : Operation → Bool
  | .add .. => !c.isFull
  | .countProcessed => true
  | _ => false

/-- A collector without errors is never above a threshold that is enforced. -/
theorem isAbove_of_latest_eq_nil {c : Collector} (hlatest : c.latest = [])
    (hpositive : Binary64.blt .zero c.tolerance.threshold = true) : c.isAbove = false := by
  have hzero : ∃ q, c.rate = .finite false 0 q := by
    unfold rate
    split
    · exact ⟨-1074, rfl⟩
    · rename_i hprocessed
      have hcount : c.count = 0 := by simp [count, hlatest]
      rw [hcount]
      exact Binary64.zero_div_ofNat hprocessed
  rcases hzero with ⟨q, hq⟩
  simp [isAbove, hq, Binary64.blt_zero_eq_false hpositive, Binary64.isNaN]

/-- What `evaluate` asks for, in terms of the order. -/
theorem breaks_eq {c : Collector} (hnumber : c.tolerance.threshold.isNaN = false) :
    c.breaks = (c.tolerance.isEnforced && c.isAbove) := by
  -- what is asked for as "not at most" is "above", up to values that are no numbers
  have hpositive : (!Binary64.ble c.tolerance.threshold .zero) =
      Binary64.blt .zero c.tolerance.threshold := by
    have h := Binary64.not_ble_iff hnumber (b := .zero) rfl
    cases hle : Binary64.ble c.tolerance.threshold .zero <;>
      cases hlt : Binary64.blt .zero c.tolerance.threshold <;> simp_all
  have habove : (!Binary64.ble c.rate c.tolerance.threshold) = c.isAbove := by
    have h := Binary64.not_ble_iff_of_right (a := c.rate) hnumber
    cases hle : Binary64.ble c.rate c.tolerance.threshold <;>
      cases hlt : Binary64.blt c.tolerance.threshold c.rate <;>
      cases hnan : c.rate.isNaN <;> simp_all [isAbove]
  rw [breaks, hpositive, habove, Tolerance.isEnforced]

@[simp]
theorem isAbove_evaluate (c : Collector) : c.evaluate.isAbove = c.isAbove := by
  simp [isAbove]

/-! ## One operation -/

theorem breached_evaluate_eq {c : Collector} (hnumber : c.tolerance.threshold.isNaN = false) :
    c.evaluate.breached = (c.breached || (c.tolerance.isEnforced && c.isAbove)) ∧
    c.evaluate.cancelled = (c.cancelled || (c.tolerance.isEnforced && c.isAbove)) := by
  rw [breached_evaluate, cancelled_evaluate, breaks_eq hnumber]
  exact ⟨rfl, rfl⟩

/-- An operation notes a breach when it looks at an enforced threshold and leaves the rate above it.
The scope of the collector follows. -/
theorem breached_perform {c : Collector} (hnumber : c.tolerance.threshold.isNaN = false)
    (op : Operation) :
    (c.perform op).1.breached = (c.breached ||
      (c.tolerance.isEnforced && (c.looks op && (c.perform op).1.isAbove))) ∧
    (c.perform op).1.cancelled = (c.cancelled ||
      (c.tolerance.isEnforced && (c.looks op && (c.perform op).1.isAbove))) := by
  cases op with
  | add error record time =>
    rcases c.add_cases error record time with ⟨hfull, h⟩ | ⟨hroom, e, _, h⟩
    · simp [perform, h, looks, hfull]
    · have hnoted := breached_evaluate_eq (c := c.push e) hnumber
      simpa [perform, h, looks, hroom] using hnoted
  | addAs category error record time =>
    -- the threshold is not looked at, whether the error is taken in or not
    rcases c.addAs_cases category error record time with ⟨_, h⟩ | ⟨_, h⟩
    · simp [perform, h, looks]
    · simp [perform, h, looks]
  | countProcessed =>
    rcases c.countProcessed_cases with ⟨hnone, h⟩ | ⟨_, h⟩
    · -- nothing is looked at, but nothing is above an enforced threshold either
      have hbelow : (c.tolerance.isEnforced && c.counted.isAbove) = false := by
        cases henforced : c.tolerance.isEnforced with
        | false => rfl
        | true =>
          have hpositive : Binary64.blt .zero c.tolerance.threshold = true := by
            simp_all [Tolerance.isEnforced]
          simpa using isAbove_of_latest_eq_nil (c := c.counted) hnone hpositive
      simp [perform, h, looks, hbelow]
    · have hnoted := breached_evaluate_eq (c := c.counted) hnumber
      simpa [perform, h, looks] using hnoted
  | clear => simp [perform, looks, clear]

/-! ## Operations in turn -/

def Operation.namesCategory : Operation → Bool
  | .addAs .. => true
  | _ => false

theorem isAbove_of_isExceeded {c : Collector} (h : c.isExceeded = true) : c.isAbove = true := by
  unfold isExceeded at h
  rcases Bool.and_eq_true_iff.1 h with ⟨_, habove⟩
  simp [isAbove, habove]

theorem isEnforced_of_isExceeded {c : Collector} (henforced : c.tolerance.enforced = true)
    (h : c.isExceeded = true) : c.tolerance.isEnforced = true := by
  unfold isExceeded at h
  rcases Bool.and_eq_true_iff.1 h with ⟨hpositive, _⟩
  simp [Tolerance.isEnforced, henforced, hpositive]

/-- An operation that names no category leaves the rate as it is, or takes it to zero, or looks at
the threshold. -/
theorem perform_cases (c : Collector) {op : Operation} (hop : op.namesCategory = false) :
    (c.perform op).1 = c ∨ (c.perform op).1.latest = [] ∨ c.looks op = true := by
  cases op with
  | add error record time =>
    rcases c.add_cases error record time with ⟨_, h⟩ | ⟨hroom, _⟩
    · exact .inl (by simp [perform, h])
    · exact .inr (.inr (by simp [looks, hroom]))
  | addAs category error record time => cases hop
  | countProcessed => exact .inr (.inr rfl)
  | clear => exact .inr (.inl rfl)

/-- Unless categories are named, an enforced threshold is never exceeded without a breach. -/
theorem breached_of_isExceeded {tolerance : Tolerance} (hnumber : tolerance.threshold.isNaN = false)
    (henforced : tolerance.enforced = true) {ops : List Operation}
    (hops : ∀ op ∈ ops, op.namesCategory = false)
    (hexceeded : ((empty tolerance).performAll ops).isExceeded = true) :
    ((empty tolerance).performAll ops).breached = true := by
  induction ops using List.reverseRecOn with
  | nil =>
    have habove := isAbove_of_isExceeded hexceeded
    have hpositive := isEnforced_of_isExceeded henforced hexceeded
    rw [performAll_nil, isAbove_of_latest_eq_nil rfl (by
      simp_all [Tolerance.isEnforced, empty])] at habove
    cases habove
  | append_singleton ops last ih =>
    have htolerance : ((empty tolerance).performAll ops).tolerance = tolerance :=
      tolerance_performAll _ ops
    rw [performAll_append, performAll_singleton] at hexceeded ⊢
    have hlast := breached_perform (c := (empty tolerance).performAll ops)
      (by rwa [htolerance]) last
    have habove := isAbove_of_isExceeded hexceeded
    have hpositive := isEnforced_of_isExceeded (by
      rw [tolerance_perform, htolerance, henforced]) hexceeded
    rw [tolerance_perform, htolerance] at hpositive
    -- the last operation changed nothing, left no errors, or looked at the threshold
    rcases perform_cases ((empty tolerance).performAll ops) (hops last (by simp)) with
      hsame | hnone | hlooks
    · rw [hsame] at hexceeded ⊢
      exact ih (fun op hop => hops op (by simp [hop])) hexceeded
    · rw [isAbove_of_latest_eq_nil hnone (by
        rw [tolerance_perform, htolerance]
        simp_all [Tolerance.isEnforced])] at habove
      cases habove
    · rw [hlast.1, hlooks, habove, htolerance, hpositive]
      simp

end Collector
end RecordFlow
