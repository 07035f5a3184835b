import Mathlib.Data.List.Forall2
import RecordFlow.Error

/-!
# Error — what layers of context leave of an error

An error is given layers of context on its way out of a run, the outermost layer last.
`FlowError.within` puts an error into layers and `FlowError.layers` tells the layers of an error, so
that every error is its layers around an innermost error that has none (`within_layers`).

* `rootCause_eq_iff` says which error the innermost one is,
* `category_within` says what becomes of the category, everything else about an error being told by
  the innermost one alone,
* `message_within` says how the layers show in the message,
* `severity_eq_low_iff` and `isRetryable_iff` tie the severity and another attempt to the category.
-/

namespace RecordFlow

/-- What a layer of context tells: the operation, and where it was at work. -/
structure Layer where
  operation : String
  source : String
  line : Nat
deriving DecidableEq, Repr

/-- How a layer shows in a message: with the source and the line if there is a line, with the source
alone if there is none, and as the operation alone where no source is known either. -/
inductive Layer.Reads (layer : Layer) : String → Prop where
  | line : 0 < layer.line →
      Reads layer (layer.operation ++ ": " ++ layer.source ++ ":" ++ toString layer.line ++ ": ")
  | source : layer.line = 0 → layer.source ≠ "" →
      Reads layer (layer.operation ++ ": " ++ layer.source ++ ": ")
  | operation : layer.line = 0 → layer.source = "" → Reads layer (layer.operation ++ ": ")

namespace FlowError

/-! ## Layers -/

/-- An error with a layer of context around it. -/
def inside (error : FlowError) (layer : Layer) : FlowError :=
  .context layer.operation layer.source layer.line error

/-- An error within layers of context, the outermost layer first. -/
def within (layers : List Layer) (error : FlowError) : FlowError :=
  layers.foldr (fun layer error => error.inside layer) error

/-- The layers of context around an error, the outermost first. -/
def layers : FlowError → List Layer
  | .context operation source line cause => ⟨operation, source, line⟩ :: layers cause
  | _ => []

def isContext : FlowError → Bool
  | .context .. => true
  | _ => false

@[simp]
theorem within_nil (error : FlowError) : within [] error = error := rfl

@[simp]
theorem within_cons (outer : Layer) (rest : List Layer) (error : FlowError) :
    within (outer :: rest) error = (within rest error).inside outer := rfl

@[simp]
theorem rootCause_inside (error : FlowError) (layer : Layer) :
    (error.inside layer).rootCause = error.rootCause := rfl

theorem isContext_rootCause (error : FlowError) : error.rootCause.isContext = false := by
  induction error with
  | context operation source line cause ih => exact ih
  | _ => rfl

/-- Every error is its layers around its root cause. -/
theorem within_layers (error : FlowError) : within error.layers error.rootCause = error := by
  induction error with
  | context operation source line cause ih =>
    show (within cause.layers cause.rootCause).inside ⟨operation, source, line⟩ = _
    rw [ih]
    rfl
  | _ => rfl

theorem rootCause_of_not_isContext {error : FlowError} (hbare : error.isContext = false) :
    error.rootCause = error := by
  cases error with
  | context operation source line cause => cases hbare
  | _ => rfl

@[simp]
theorem rootCause_within (layers : List Layer) (error : FlowError) :
    (within layers error).rootCause = error.rootCause := by
  induction layers with
  | nil => rfl
  | cons outer rest ih => exact ih

/-- The root cause is the one error without context that some layers lead down to. -/
theorem rootCause_eq_iff (error root : FlowError) :
    error.rootCause = root ↔ root.isContext = false ∧ ∃ layers, within layers root = error := by
  constructor
  · rintro rfl
    exact ⟨isContext_rootCause error, error.layers, within_layers error⟩
  · rintro ⟨hbare, layers, rfl⟩
    rw [rootCause_within, rootCause_of_not_isContext hbare]

/-! ## Classification -/

section SameRoot

variable {error other : FlowError} (hroot : error.rootCause = other.rootCause)
include hroot

theorem isValidation_congr : error.isValidation = other.isValidation := by
  unfold isValidation
  rw [hroot]

theorem isIo_congr : error.isIo = other.isIo := by
  unfold isIo
  rw [hroot]

theorem isTimeout_congr : error.isTimeout = other.isTimeout := by
  unfold isTimeout
  rw [hroot]

theorem severity_congr : error.severity = other.severity := by
  unfold severity
  rw [hroot, isValidation_congr hroot]

end SameRoot

/-- An error with context is a processing error where it would be of no known category. -/
theorem category_inside (error : FlowError) (layer : Layer) :
    (error.inside layer).category =
      if error.category = .unknown then .processing else error.category := by
  have hroot := rootCause_inside error layer
  have hcontext : (error.inside layer).isProcessing = true := rfl
  unfold category
  rw [isValidation_congr hroot, isIo_congr hroot, isTimeout_congr hroot, hcontext]
  cases error.isValidation <;> cases error.isIo <;> cases error.isTimeout <;>
    cases error.isProcessing <;> rfl

/-- Further layers change nothing about the category that the first one has given. -/
theorem category_within (outer : Layer) (rest : List Layer) (error : FlowError) :
    (within (outer :: rest) error).category =
      if error.category = .unknown then .processing else error.category := by
  induction rest generalizing outer with
  | nil => exact category_inside error outer
  | cons next rest ih =>
    rw [within_cons, category_inside, ih next]
    -- what has a layer already is of a known category
    by_cases hunknown : error.category = .unknown
    · simp [hunknown]
    · simp [hunknown]

theorem category_eq_validation_iff (error : FlowError) :
    error.category = .validation ↔ error.isValidation = true := by
  unfold category
  cases error.isValidation <;> cases error.isIo <;> cases error.isTimeout <;>
    cases error.isProcessing <;> decide

theorem severity_eq_low_iff (error : FlowError) :
    error.severity = .low ↔ error.category = .validation := by
  rw [category_eq_validation_iff]
  unfold severity isValidation
  -- the two grave kinds are no validation errors, and the others go by the same test
  cases error.rootCause <;> simp

theorem isRetryable_iff (error : FlowError) :
    error.isRetryable = true ↔ error.category = .io ∨ error.category = .timeout := by
  unfold isRetryable
  cases error.category <;> decide

theorem isRetryable_within (layers : List Layer) (error : FlowError) :
    (within layers error).isRetryable = error.isRetryable := by
  cases layers with
  | nil => rfl
  | cons outer rest =>
    rw [Bool.eq_iff_iff, isRetryable_iff, isRetryable_iff, category_within]
    cases error.category <;> decide

/-! ## Messages -/

theorem reads_contextLabel (layer : Layer) :
    layer.Reads (contextLabel layer.operation layer.source layer.line) := by
  unfold contextLabel
  split
  case isTrue hline => exact .line hline
  case isFalse hnone =>
    have hline : layer.line = 0 := Nat.eq_zero_of_not_pos hnone
    split
    case isTrue hsource => exact .source hline hsource
    case isFalse hblank => exact .operation hline (not_not.1 hblank)

/-- The message within some layers is what each of them reads as, and then the message. -/
theorem message_within (layers : List Layer) (error : FlowError) :
    ∃ labels, List.Forall₂ Layer.Reads layers labels ∧
      (within layers error).message = String.join labels ++ error.message := by
  induction layers with
  | nil => exact ⟨[], .nil, by simp⟩
  | cons outer rest ih =>
    rcases ih with ⟨labels, hlabels, hmessage⟩
    refine ⟨contextLabel outer.operation outer.source outer.line :: labels,
      .cons (reads_contextLabel outer) hlabels, ?_⟩
    calc (within (outer :: rest) error).message
        = contextLabel outer.operation outer.source outer.line ++ (within rest error).message := rfl
      _ = contextLabel outer.operation outer.source outer.line ++
            (String.join labels ++ error.message) := by rw [hmessage]
      _ = String.join (contextLabel outer.operation outer.source outer.line :: labels) ++
            error.message := by rw [String.join_cons, String.append_assoc]

/-- Classification looks through context.  Within layers of context, one at least, an error has the
root cause that it has by itself, which is the one error without context inside it.  It is as grave
as before, another attempt is worth as much, and it is a validation, an input or a timeout error if
it was one; its category is the same, but that an unknown one is now that of processing.  Its
message comes behind what the layers read as, the outermost first.  With and without context, low
severity is that of validation errors, and another attempt is for input and timeout errors. -/
theorem context_is_looked_through (error : FlowError) (outer : Layer) (rest : List Layer) :
    let wrapped := within (outer :: rest) error
    (wrapped.rootCause = error.rootCause ∧
      ∀ root, wrapped.rootCause = root ↔
        root.isContext = false ∧ ∃ layers, within layers root = wrapped) ∧
    (wrapped.severity = error.severity ∧ wrapped.isRetryable = error.isRetryable ∧
      wrapped.isValidation = error.isValidation ∧ wrapped.isIo = error.isIo ∧
      wrapped.isTimeout = error.isTimeout) ∧
    wrapped.category = (if error.category = .unknown then .processing else error.category) ∧
    (∃ labels, List.Forall₂ Layer.Reads (outer :: rest) labels ∧
      wrapped.message = String.join labels ++ error.message) ∧
    ∀ any : FlowError,
      (any.severity = .low ↔ any.category = .validation) ∧
      (any.isRetryable = true ↔ any.category = .io ∨ any.category = .timeout) := by
  intro wrapped
  have hroot : wrapped.rootCause = error.rootCause := rootCause_within _ _
  have htests : wrapped.isValidation = error.isValidation ∧ wrapped.isIo = error.isIo ∧
      wrapped.isTimeout = error.isTimeout :=
    ⟨isValidation_congr hroot, isIo_congr hroot, isTimeout_congr hroot⟩
  refine ⟨⟨hroot, fun root => rootCause_eq_iff wrapped root⟩, ?_, category_within outer rest error,
    message_within (outer :: rest) error, ?_⟩
  · exact ⟨severity_congr hroot, isRetryable_within _ _, htests⟩
  · intro any
    exact ⟨severity_eq_low_iff any, isRetryable_iff any⟩

/-- An error of no category in a record of a file that is read: the layers are told with and without
a line, and it counts as a processing error that is not worth another attempt. -/
theorem context_is_looked_through_twice :
    let wrapped := within [⟨"check", "a.csv", 2⟩, ⟨"read", "a.csv", 0⟩] (.other "boom")
    wrapped.rootCause = .other "boom" ∧ wrapped.category = .processing ∧
      wrapped.isRetryable = false ∧ wrapped.message = "check: a.csv:2: read: a.csv: boom" := by
  have hlooked := context_is_looked_through (.other "boom") ⟨"check", "a.csv", 2⟩
    [⟨"read", "a.csv", 0⟩]
  refine ⟨hlooked.1.1, hlooked.2.2.1, hlooked.2.1.2.1, ?_⟩
  rcases hlooked.2.2.2.1 with ⟨labels, hlabels, hmessage⟩
  rw [hmessage]
  -- the line is known in the outer layer and not in the inner one
  cases hlabels with
  | cons hcheck hlabels =>
    cases hlabels with
    | cons hread hlabels =>
      cases hlabels
      cases hcheck with
      | source hline | operation hline => cases hline
      | line =>
        cases hread with
        | line hline => cases hline
        | operation _ hsource => exact absurd hsource (by decide)
        | source => decide +kernel

end FlowError
end RecordFlow
