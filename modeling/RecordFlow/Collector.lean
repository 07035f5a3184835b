import RecordFlow.Error
import RecordFlow.Json.Value
import RecordFlow.Record
import RecordFlow.Time.Calendar

/-!
# Collector — the errors of a run

A collector keeps errors in the order in which they came, up to a limit, and counts the records that
were processed.  A limit of zero is none.  When the share of errors may not exceed a threshold and
does, the collector notes the breach for good and cancels its scope.

* `add` appends an error unless the limit is reached, and looks at the threshold,
* `addAs` appends an error under a category of the caller's choice, and does not,
* `countProcessed` counts a record, and looks at the threshold if there are errors,
* `summary` counts the errors by what they are.
-/

namespace RecordFlow

/-- An error with what was known when it was collected. -/
structure Entry where
  error : FlowError
  record : Option Record
  time : Moment
  category : Category
  severity : Severity
  retryable : Bool
deriving DecidableEq, Repr, Inhabited

namespace Entry

def ofCategory (category : Category) (error : FlowError) (record : Option Record)
    (time : Moment) : Entry :=
  ⟨error, record, time, category, error.severity, error.isRetryable⟩

def ofError (error : FlowError) (record : Option Record) (time : Moment) : Entry :=
  ofCategory error.category error record time

/-- The entry as JSON, without its record. -/
def toJson (e : Entry) : Json :=
  .object
    [("error", .string e.error.message), ("timestamp", .string e.time.zulu),
     ("category", .string e.category.label), ("severity", .string e.severity.label),
     ("retryable", .bool e.retryable)]

end Entry

/-- How much a collector bears. -/
structure Tolerance where
  /-- The most entries, zero for no limit. -/
  maxErrors : Nat
  /-- The share of errors that may not be exceeded, zero for no threshold. -/
  threshold : Binary64
  /-- Whether exceeding the threshold counts as a breach. -/
  enforced : Bool
deriving DecidableEq, Repr, Inhabited

structure Collector where
  tolerance : Tolerance
  /-- The entries, the last one first. -/
  latest : List Entry
  processed : Nat
  breached : Bool
  /-- Whether the scope of the collector is cancelled. -/
  cancelled : Bool
deriving DecidableEq, Repr

/-- The counts of entries by what they are, in the order in which each kind came first. -/
structure ErrorCounts where
  total : Nat
  processed : Nat
  rate : Binary64
  byCategory : List (Category × Nat)
  bySeverity : List (Severity × Nat)
  retryable : Nat
deriving DecidableEq, Repr

/-- Counts one more of a kind. -/
def countOne [DecidableEq α] (kind : α) : List (α × Nat) → List (α × Nat)
  | [] => [(kind, 1)]
  | (k, n) :: rest => if k = kind then (k, n + 1) :: rest else (k, n) :: countOne kind rest

/-- How often every kind occurs, in the order of the first occurrences. -/
def countKinds [DecidableEq α] (kinds : List α) : List (α × Nat) :=
  kinds.foldl (fun counts kind => countOne kind counts) []

namespace Collector

def empty (tolerance : Tolerance) : Collector := ⟨tolerance, [], 0, false, false⟩

/-- The entries in the order in which they came. -/
def entries (c : Collector) : List Entry := c.latest.reverse

def count (c : Collector) : Nat := c.latest.length

/-- Errors for each processed record, zero before there are any records. -/
def rate (c : Collector) : Binary64 :=
  if c.processed = 0 then .zero else Binary64.ofNat c.count / Binary64.ofNat c.processed

/-- Whether the rate is now above the threshold, enforced or not. -/
def isExceeded (c : Collector) : Bool :=
  Binary64.blt .zero c.tolerance.threshold && Binary64.blt c.tolerance.threshold c.rate

/-- Whether the limit leaves no room for an entry. -/
def isFull (c : Collector) : Bool :=
  0 < c.tolerance.maxErrors && c.tolerance.maxErrors ≤ c.count

/-- Whether an enforced threshold does not hold. -/
def breaks (c : Collector) : Bool :=
  c.tolerance.enforced && !Binary64.ble c.tolerance.threshold .zero &&
    !Binary64.ble c.rate c.tolerance.threshold

/-- Notes a breach of the threshold, if there is one. -/
def evaluate (c : Collector) : Collector :=
  if c.breaks then { c with breached := true, cancelled := true } else c

def push (c : Collector) (e : Entry) : Collector := { c with latest := e :: c.latest }

def limitReached (c : Collector) : FlowError := .limitReached c.tolerance.maxErrors

def add (c : Collector) (error : FlowError) (record : Option Record) (time : Moment) :
    Collector × Except FlowError Unit :=
  if c.isFull then (c, .error c.limitReached)
  else
    let c := c.push (.ofError error record time)
    (c.evaluate,
      if c.breaks then .error (.thresholdExceeded c.rate c.tolerance.threshold) else .ok ())

/-- Collects an error under a category, without a look at the threshold. -/
def addAs (c : Collector) (category : Category) (error : FlowError) (record : Option Record)
    (time : Moment) : Collector × Except FlowError Unit :=
  if c.isFull then (c, .error c.limitReached)
  else (c.push (.ofCategory category error record time), .ok ())

def countProcessed (c : Collector) : Collector :=
  let c := { c with processed := c.processed + 1 }
  if c.latest.isEmpty then c else c.evaluate

/-- Forgets entries and counts, but not a breach. -/
def clear (c : Collector) : Collector := { c with latest := [], processed := 0 }

def ofCategory (c : Collector) (category : Category) : List Entry :=
  c.entries.filter fun e => e.category = category

def ofSeverity (c : Collector) (severity : Severity) : List Entry :=
  c.entries.filter fun e => e.severity = severity

def counts (c : Collector) : ErrorCounts :=
  ⟨c.count, c.processed, c.rate, countKinds (c.entries.map Entry.category),
    countKinds (c.entries.map Entry.severity), c.entries.countP Entry.retryable⟩

/-! ### Laws -/

@[simp]
theorem entries_push (c : Collector) (e : Entry) : (c.push e).entries = c.entries ++ [e] := by
  simp [entries, push]

@[simp]
theorem length_entries (c : Collector) : c.entries.length = c.count := by
  simp [entries, count]

@[simp]
theorem entries_clear (c : Collector) : c.clear.entries = [] := rfl

@[simp]
theorem entries_evaluate (c : Collector) : c.evaluate.entries = c.entries := by
  unfold evaluate
  split <;> rfl

@[simp]
theorem entries_countProcessed (c : Collector) : c.countProcessed.entries = c.entries := by
  have same : ({ c with processed := c.processed + 1 } : Collector).entries = c.entries := rfl
  by_cases h : c.latest.isEmpty = true
  · simp [countProcessed, h, same]
  · simp [countProcessed, h, same]

end Collector

namespace ErrorCounts

/-- A label and a count in a column of its own. -/
def row (label : String) (n : Nat) : String :=
  "  " ++ label ++ String.ofList (List.replicate (15 - label.length) ' ') ++ ": " ++
    toString n ++ "\n"

/-- A headed list of counts, nothing for an empty one. -/
def group (title : String) (rows : List (String × Nat)) : String :=
  if rows.isEmpty then ""
  else "\n" ++ title ++ "\n" ++ String.join (rows.map fun (label, n) => row label n)

def text (c : ErrorCounts) : String :=
  "Total Errors:      " ++ toString c.total ++ "\n" ++
    "Total Processed:   " ++ toString c.processed ++ "\n" ++
    "Error Rate:        " ++ Fixed.text 2 (c.rate * .ofNat 100) ++ "%\n" ++
    "Retryable Errors:  " ++ toString c.retryable ++ "\n" ++
    group "Errors by Category:" (c.byCategory.map fun (k, n) => (k.label, n)) ++
    group "Errors by Severity:" (c.bySeverity.map fun (k, n) => (k.label, n))

def toJson (c : ErrorCounts) : Json :=
  .object
    [("total_errors", .natural c.total), ("total_processed", .natural c.processed),
     ("error_rate", .number c.rate),
     ("by_category", .object (c.byCategory.map fun (k, n) => (k.label, .natural n))),
     ("by_severity", .object (c.bySeverity.map fun (k, n) => (k.label, .natural n))),
     ("retryable_errors", .natural c.retryable)]

end ErrorCounts
end RecordFlow
