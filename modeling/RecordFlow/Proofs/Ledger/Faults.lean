import RecordFlow.Proofs.Ledger.Lines

/-!
# Faults — the first write that fails

A sink that fails at a line is given up, so that only its first failure matters.  Either a sink
takes all of some lines (`Sink.Takes`), or there is a first write that fails: the lines before it
are taken, its fault is kept, and nothing that comes later is written (`Sink.FailsBehind`).  A first
failure that is a broken pipe, of a write or of the end, ends the process (`Sink.BreaksBehind`).
-/

namespace RecordFlow

namespace Sink

/-- Whether a sink takes lines one after another. -/
def Takes (sink : Sink) (lines : List String) : Prop :=
  ∀ before line after, lines = before ++ line :: after → sink.writeFault? before.reverse = .none

/-- Whether the first write of some lines that fails is the one behind the lines `before`. -/
structure FailsBehind (sink : Sink) (before : List String) (fault : Fault)
    (lines : List String) : Prop where
  follows : ∃ line after, lines = before ++ line :: after
  takes : sink.Takes before
  fails : sink.writeFault? before.reverse = some fault

/-- Whether the first failure over some lines is that nobody reads them: of a write, or of the end
behind all of them. -/
def BreaksBehind (sink : Sink) (before lines : List String) : Prop :=
  sink.FailsBehind before .brokenPipe lines ∨
    sink.Takes lines ∧ sink.flushFault? = some .brokenPipe ∧ before = lines

theorem takes_nil (sink : Sink) : sink.Takes [] := by
  intro before line after h
  simp at h

theorem takes_append_singleton_iff (sink : Sink) (lines : List String) (last : String) :
    sink.Takes (lines ++ [last]) ↔
      sink.Takes lines ∧ sink.writeFault? lines.reverse = .none := by
  constructor
  · intro htakes
    refine ⟨?_, htakes lines last [] rfl⟩
    intro before line after h
    exact htakes before line (after ++ [last]) (by simp [h])
  · rintro ⟨htakes, hlast⟩ before line after h
    rcases List.eq_nil_or_concat after with rfl | ⟨front, final, rfl⟩
    · have hparts : lines = before ∧ [last] = [line] := List.append_inj' h rfl
      rw [← hparts.1]
      exact hlast
    · have hparts : lines = before ++ line :: front ∧ [last] = [final] :=
        List.append_inj' (by simpa using h) rfl
      exact htakes before line front hparts.1

/-- A sink that takes the first line and not the next one fails behind the first. -/
theorem failsBehind_first {sink : Sink} {first line : String} {after : List String} {fault : Fault}
    (htakes : sink.writeFault? [] = .none) (hfails : sink.writeFault? [first] = some fault) :
    sink.FailsBehind [first] fault (first :: line :: after) :=
  ⟨⟨line, after, rfl⟩,
    (sink.takes_append_singleton_iff [] first).2 ⟨sink.takes_nil, htakes⟩, hfails⟩

theorem FailsBehind.not_takes {sink : Sink} {before lines : List String} {fault : Fault}
    (hfails : sink.FailsBehind before fault lines) : ¬ sink.Takes lines := by
  rcases hfails.follows with ⟨line, after, hlines⟩
  intro htakes
  have hnone := htakes before line after hlines
  rw [hfails.fails] at hnone
  cases hnone

/-- A sink takes lines, or one of their writes is the first that fails. -/
theorem takes_or_failsBehind (sink : Sink) (lines : List String) :
    sink.Takes lines ∨ ∃ before fault, sink.FailsBehind before fault lines := by
  -- from the last line, at which a sink that took the others may fail
  induction lines using List.reverseRecOn with
  | nil => exact .inl sink.takes_nil
  | append_singleton lines last ih =>
    rcases ih with htakes | ⟨before, fault, hfails⟩
    · cases hlast : sink.writeFault? lines.reverse with
      | none => exact .inl ((sink.takes_append_singleton_iff lines last).2 ⟨htakes, hlast⟩)
      | some fault => exact .inr ⟨lines, fault, ⟨last, [], rfl⟩, htakes, hlast⟩
    · rcases hfails.follows with ⟨line, after, rfl⟩
      exact .inr ⟨before, fault, ⟨line, after ++ [last], by simp⟩, hfails.takes, hfails.fails⟩

end Sink

namespace Output

theorem writeAll_of_none {o : Output} (hsink : o.sink = .none) (lines : List String) :
    o.writeAll lines = o := by
  induction lines using List.reverseRecOn with
  | nil => rfl
  | append_singleton lines last ih =>
    rw [writeAll_append, ih, writeAll_singleton, write, hsink]

theorem writeAll_of_takes {sink : Sink} {lines : List String} (htakes : sink.Takes lines) :
    (ofSink sink).writeAll lines = ⟨some sink, lines.reverse, .none⟩ := by
  induction lines using List.reverseRecOn with
  | nil => rfl
  | append_singleton lines last ih =>
    rcases (sink.takes_append_singleton_iff lines last).1 htakes with ⟨hbefore, hlast⟩
    rw [writeAll_append, ih hbefore, writeAll_singleton]
    simp [write, hlast]

/-- What follows the first failure is not written, and its fault is kept. -/
theorem writeAll_of_failsBehind {sink : Sink} {before lines : List String} {fault : Sink.Fault}
    (hfails : sink.FailsBehind before fault lines) :
    (ofSink sink).writeAll lines = ⟨.none, before.reverse, some fault⟩ := by
  rcases hfails.follows with ⟨line, after, rfl⟩
  have hfirst : ((ofSink sink).writeAll before).write line =
      (⟨.none, before.reverse, some fault⟩, true) := by
    rw [writeAll_of_takes hfails.takes]
    simp [write, hfails.fails]
  calc (ofSink sink).writeAll (before ++ line :: after)
      = ((ofSink sink).writeAll before).writeAll (line :: after) := writeAll_append _ _ _
    _ = (((ofSink sink).writeAll before).write line).1.writeAll after := rfl
    _ = ⟨.none, before.reverse, some fault⟩ := by
        rw [hfirst]
        exact writeAll_of_none rfl after

/-- The end of an output is its sink's, as long as there is one. -/
theorem flush_writeAll_of_takes {sink : Sink} {lines : List String} (htakes : sink.Takes lines) :
    ((ofSink sink).writeAll lines).flush = ⟨some sink, lines.reverse, sink.flushFault?⟩ := by
  rw [writeAll_of_takes htakes]
  cases hend : sink.flushFault? <;> simp [flush, hend]

theorem flush_writeAll_of_failsBehind {sink : Sink} {before lines : List String}
    {fault : Sink.Fault} (hfails : sink.FailsBehind before fault lines) :
    ((ofSink sink).writeAll lines).flush = ⟨.none, before.reverse, some fault⟩ := by
  rw [writeAll_of_failsBehind hfails]
  rfl

/-- The fault that is kept is a broken pipe just if the first failure is one; the lines are then
those before it. -/
theorem breaks_flush_writeAll_iff (sink : Sink) (before lines : List String) :
    ((ofSink sink).writeAll lines).flush.fault = some .brokenPipe ∧
        ((ofSink sink).writeAll lines).flush.lines = before ↔
      sink.BreaksBehind before lines := by
  unfold Sink.BreaksBehind
  rcases sink.takes_or_failsBehind lines with htakes | ⟨front, fault, hfails⟩
  · have hnever : ¬ sink.FailsBehind before .brokenPipe lines := fun hfails =>
      hfails.not_takes htakes
    have hkept : Output.lines ⟨some sink, lines.reverse, sink.flushFault?⟩ = lines :=
      List.reverse_reverse lines
    rw [flush_writeAll_of_takes htakes, hkept]
    constructor
    · rintro ⟨hend, hbefore⟩
      exact .inr ⟨htakes, hend, hbefore.symm⟩
    · rintro (hfails | ⟨_, hend, hbefore⟩)
      · exact absurd hfails hnever
      · exact ⟨hend, hbefore.symm⟩
  · have hkept : Output.lines ⟨.none, front.reverse, some fault⟩ = front :=
      List.reverse_reverse front
    rw [flush_writeAll_of_failsBehind hfails, hkept]
    constructor
    · rintro ⟨hpipe, rfl⟩
      have hpipe : fault = .brokenPipe := by simpa using hpipe
      exact .inl (hpipe ▸ hfails)
    · rintro (hbreaks | ⟨htakes, _, _⟩)
      · -- the output that is left tells which write failed first, and how
        have hsame := (writeAll_of_failsBehind hfails).symm.trans (writeAll_of_failsBehind hbreaks)
        have hparts : front = before ∧ fault = .brokenPipe := by simpa using hsame
        exact ⟨congrArg some hparts.2, hparts.1⟩
      · exact absurd htakes hfails.not_takes

theorem loses_ofSink_iff (sink : Sink) (lines : List String) :
    (ofSink sink).Loses lines ↔ ¬ sink.Takes lines := by
  induction lines using List.reverseRecOn with
  | nil => simp [Loses, not_meets_nil, sink.takes_nil]
  | append_singleton lines last ih =>
    rw [Loses, meets_append_singleton, ← Loses, ← writeAll, ih, sink.takes_append_singleton_iff]
    by_cases htakes : sink.Takes lines
    · rw [writeAll_of_takes htakes]
      cases hlast : sink.writeFault? lines.reverse <;> simp [write, htakes, hlast]
    · simp [htakes]

end Output
end RecordFlow
