import RecordFlow.Number.Fixed

/-!
# Error — what can go wrong in a run, and how it is classified

An error is a value made where it occurs.  `FlowError.context` wraps an error with the operation,
the source and the line it occurred at; every rule but one looks through these layers at the
innermost error, the `rootCause`.

* `message` is the text of an error,
* `category`, `severity` and `isRetryable` classify it,
* a wrapped error of no other category counts as a processing error.
-/

namespace RecordFlow

/-- An error of the reader, the workers, the collector or the run. -/
inductive FlowError where
  | invalidCsv (message : String)
  | invalidRecord (message : String)
  | validation (field value message : String)
  | headerMismatch (expected actual : List String)
  | fileNotFound
  | emptyFile
  | io (message : String)
  | timeout
  | cancelled
  | processing (message : String)
  | maxErrorsExceeded
  | limitReached (limit : Nat)
  | thresholdExceeded (rate threshold : Binary64)
  | alreadyStarted
  | alreadyRan
  | aborted
  | context (operation source : String) (line : Nat) (cause : FlowError)
  | other (message : String)
deriving DecidableEq, Repr, Inhabited

/-- The kind of trouble an error is. -/
inductive Category where
  | validation
  | processing
  | io
  | timeout
  | unknown
deriving DecidableEq, Repr, Inhabited

/-- How grave an error is. -/
inductive Severity where
  | low
  | medium
  | high
  | critical
deriving DecidableEq, Repr, Inhabited

def Category.label : Category → String
  | .validation => "VALIDATION"
  | .processing => "PROCESSING"
  | .io => "IO"
  | .timeout => "TIMEOUT"
  | .unknown => "UNKNOWN"

def Severity.label : Severity → String
  | .low => "LOW"
  | .medium => "MEDIUM"
  | .high => "HIGH"
  | .critical => "CRITICAL"

namespace FlowError

/-! ## Text -/

/-- A fraction as a percentage with one decimal place. -/
def percent (fraction : Binary64) : String :=
  Fixed.text 1 (fraction * .ofNat 100) ++ "%"

/-- What a layer of context puts before the message of its cause: the operation, then the source
and the line, or the source alone when no line is known. -/
def contextLabel (operation source : String) (line : Nat) : String :=
  if 0 < line then s!"{operation}: {source}:{line}: "
  else if source ≠ "" then s!"{operation}: {source}: "
  else s!"{operation}: "

def message : FlowError → String
  | .invalidCsv text => "invalid CSV format: " ++ text
  | .invalidRecord text => "invalid record: " ++ text
  | .validation field value text =>
    s!"validation error: field={field}, value={value}, message={text}"
  | .headerMismatch expected actual =>
    "header mismatch: expected [" ++ String.intercalate "," expected ++
      "], got [" ++ String.intercalate "," actual ++ "]"
  | .fileNotFound => "file not found"
  | .emptyFile => "empty file"
  | .io text => "I/O error: " ++ text
  | .timeout => "deadline exceeded"
  | .cancelled => "operation cancelled"
  | .processing text => "processing failed: " ++ text
  | .maxErrorsExceeded => "maximum error threshold exceeded"
  | .limitReached limit => s!"maximum error limit reached ({limit} errors)"
  | .thresholdExceeded rate threshold =>
    "error threshold exceeded: " ++ percent rate ++ " > " ++ percent threshold
  | .alreadyStarted => "worker pool already started"
  | .alreadyRan => "pipeline has already been run"
  | .aborted => "processing aborted: error threshold exceeded"
  | .context operation source line cause => contextLabel operation source line ++ message cause
  | .other text => text

/-- An error of the operating system: a missing file has an error of its own. -/
def ofSystem (notFound : Bool) (text : String) : FlowError :=
  if notFound then .fileNotFound else .io text

/-! ## Classification -/

/-- The innermost error, below every layer of context. -/
def rootCause : FlowError → FlowError
  | .context _ _ _ cause => rootCause cause
  | error => error

def isValidation (error : FlowError) : Bool :=
  match error.rootCause with
  | .invalidCsv _ | .invalidRecord _ | .validation .. | .headerMismatch .. => true
  | _ => false

def isIo (error : FlowError) : Bool :=
  match error.rootCause with
  | .fileNotFound | .emptyFile | .io _ => true
  | _ => false

def isTimeout (error : FlowError) : Bool :=
  match error.rootCause with
  | .timeout | .cancelled => true
  | _ => false

/-- A processing error at the root, or any error that has been given context. -/
def isProcessing : FlowError → Bool
  | .context .. => true
  | .processing _ => true
  | _ => false

def category (error : FlowError) : Category :=
  if error.isValidation then .validation
  else if error.isIo then .io
  else if error.isTimeout then .timeout
  else if error.isProcessing then .processing
  else .unknown

def severity (error : FlowError) : Severity :=
  match error.rootCause with
  | .maxErrorsExceeded => .critical
  | .cancelled => .high
  | _ => if error.isValidation then .low else .medium

/-- Whether another attempt could succeed.  The run itself never makes one. -/
def isRetryable (error : FlowError) : Bool :=
  match error.category with
  | .timeout | .io => true
  | _ => false

end FlowError
end RecordFlow
