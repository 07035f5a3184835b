import RecordFlow.Output
import RecordFlow.Proofs.Fold

/-!
# Lines — what an output keeps and what it loses

An output has a fault exactly when a line was lost or the end was.
-/

namespace RecordFlow
namespace Output

/-- Takes lines in turn. -/
def writeAll (o : Output) (lines : List String) : Output :=
  lines.foldl (fun o line => (o.write line).1) o

@[simp]
theorem writeAll_nil (o : Output) : o.writeAll [] = o := rfl

@[simp]
theorem writeAll_append (o : Output) (before after : List String) :
    o.writeAll (before ++ after) = (o.writeAll before).writeAll after := by
  simp [writeAll]

@[simp]
theorem writeAll_singleton (o : Output) (line : String) :
    o.writeAll [line] = (o.write line).1 := rfl

/-- Whether the write of one of some lines fails. -/
def Loses : Output → List String → Prop :=
  Meets (fun o line => (o.write line).1) fun o line => (o.write line).2 = true

/-- Whether the end of an output in use fails. -/
def LosesEnd (o : Output) : Prop := ∃ sink, o.sink = some sink ∧ sink.flushFault?.isSome = true

theorem fault_flush_eq_none_iff (o : Output) :
    o.flush.fault = .none ↔ o.fault = .none ∧ ¬ o.LosesEnd := by
  unfold flush LosesEnd
  cases o.sink with
  | none => simp
  | some sink => cases o.fault <;> cases sink.flushFault? <;> simp

/-- Lines that are not lost are kept in their order. -/
theorem lines_writeAll {o : Output} {lines : List String} (hsink : o.sink.isSome = true)
    (hkept : ¬ o.Loses lines) :
    (o.writeAll lines).lines = o.lines ++ lines ∧ (o.writeAll lines).sink = o.sink := by
  -- from the last line, which meets the sink in the state that the lines before leave
  induction lines using List.reverseRecOn with
  | nil => simp
  | append_singleton lines last ih =>
    rw [Loses, meets_append_singleton, ← Loses, ← writeAll, not_or] at hkept
    rcases hkept with ⟨hbefore, hlast⟩
    rcases ih hbefore with ⟨hlines, hsame⟩
    rcases Option.isSome_iff_exists.1 hsink with ⟨sink, hsome⟩
    rw [writeAll_append, writeAll_singleton]
    unfold write at hlast ⊢
    cases hwrite : sink.writeFault? (o.writeAll lines).taken with
    | some fault => simp [hsame, hsome, hwrite] at hlast
    | none =>
      have htaken : (o.writeAll lines).taken.reverse = o.taken.reverse ++ lines := hlines
      simp [hsame, hsome, hwrite, Output.lines, htaken]

/-! ## Outputs that never fail -/

/-- Whether the sink of an output, if there is one, takes every line. -/
def Reliable (o : Output) : Prop :=
  ∀ sink, o.sink = some sink → ∀ taken, sink.writeFault? taken = .none

variable {o : Output}

/-- A write does not fail, and the output stays as it is but for the line. -/
theorem Reliable.write (hreliable : o.Reliable) (line : String) :
    (o.write line).2 = false ∧ (o.write line).1.sink = o.sink ∧
      (o.write line).1.fault = o.fault := by
  unfold Output.write
  cases hsink : o.sink with
  | none => exact ⟨rfl, hsink, rfl⟩
  | some sink => simp [hreliable sink hsink]

theorem Reliable.sink_writeAll (hreliable : o.Reliable) (lines : List String) :
    (o.writeAll lines).sink = o.sink := by
  induction lines using List.reverseRecOn with
  | nil => rfl
  | append_singleton lines last ih =>
    have hsame : (o.writeAll lines).Reliable := by
      rw [Reliable, ih]
      exact hreliable
    rw [writeAll_append, writeAll_singleton, (hsame.write last).2.1, ih]

theorem Reliable.not_loses (hreliable : o.Reliable) (lines : List String) : ¬ o.Loses lines := by
  rintro ⟨before, line, after, _, hfails⟩
  have hsame : (o.writeAll before).Reliable := by
    rw [Reliable, hreliable.sink_writeAll]
    exact hreliable
  rw [← writeAll, (hsame.write line).1] at hfails
  cases hfails

end Output
end RecordFlow
