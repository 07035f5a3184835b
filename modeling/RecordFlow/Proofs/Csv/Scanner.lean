import Mathlib.Data.List.Basic
import RecordFlow.Csv.Tokenizer

/-!
# Scanner — what a byte does, and what some bytes do

A byte is a line end between two rows, it goes on in a row, or it ends the row
(`Scanner.step_cases`).  From this it follows what a run over some bytes keeps:

* the line grows with the line feeds, and the position of a row stays until the row ends
  (`Scanner.line_run`, `Scanner.start_run`),
* scanners that differ in their positions only go on alike (`Scanner.Like.run`), so that a row is
  read in a text as it is read alone,
* a scanner between two rows skips the line ends there (`Scanner.Rests.run_terminators`).
-/

namespace RecordFlow
namespace Csv

/-- How many line feeds there are among some bytes. -/
def lineFeeds (bytes : List UInt8) : Nat := bytes.count lineFeed

@[simp]
theorem lineFeeds_nil : lineFeeds [] = 0 := rfl

@[simp]
theorem lineFeeds_append (front rest : List UInt8) :
    lineFeeds (front ++ rest) = lineFeeds front + lineFeeds rest :=
  List.count_append

theorem lineFeeds_cons (b : UInt8) (rest : List UInt8) :
    lineFeeds (b :: rest) = lineFeeds [b] + lineFeeds rest := by
  rw [← lineFeeds_append, List.singleton_append]

namespace Scanner

variable {delimiter b : UInt8} {s t : Scanner} {raw : RawRow}

/-! ## One byte -/

/-- Whether a scanner is in a row. -/
def isOpen (s : Scanner) : Bool := s.finish?.isSome

/-- Whether a scanner is between two rows. -/
structure Rests (s : Scanner) : Prop where
  mode : s.mode = .rowStart ∨ s.mode = .afterCarriageReturn
  field : s.field = []
  fields : s.fields = []

theorem rests_initial (skipped : Nat) : (initial skipped).Rests := ⟨.inl rfl, rfl, rfl⟩

theorem Rests.finish?_eq_none (h : s.Rests) : s.finish? = none := by
  unfold finish?
  rcases h.mode with hmode | hmode <;> rw [hmode]

/-- What a byte does that is neither quoted nor a line end between two rows: it goes on in the row,
or it ends the row. -/
theorem unquoted_cases (delimiter : UInt8) (s : Scanner) (b : UInt8) :
    (∃ next, s.unquoted delimiter b = (next, none) ∧ next.isOpen = true ∧
      next.line = s.line ∧ next.start = s.start) ∨
    s.unquoted delimiter b = s.endRow b := by
  unfold unquoted
  split
  · exact .inl ⟨_, rfl, rfl, rfl, rfl⟩
  · split
    · exact .inr rfl
    · exact .inl ⟨_, rfl, rfl, rfl, rfl⟩

theorem fieldStart_cases (delimiter : UInt8) (s : Scanner) (b : UInt8) :
    (∃ next, s.fieldStart delimiter b = (next, none) ∧ next.isOpen = true ∧
      next.line = s.line ∧ next.start = s.start) ∨
    s.fieldStart delimiter b = s.endRow b := by
  unfold fieldStart
  split
  · exact .inl ⟨_, rfl, rfl, rfl, rfl⟩
  · exact s.unquoted_cases delimiter b

/-- A byte is a line end between two rows, it goes on in a row, or it ends the row. -/
theorem step_cases (delimiter : UInt8) (s : Scanner) (b : UInt8) :
    (isTerminator b = true ∧ s.isOpen = false ∧
      s.step delimiter b = ({ s.count b with mode := .rowStart }, none)) ∨
    (∃ next, s.step delimiter b = (next, none) ∧ next.isOpen = true ∧
      next.line = (s.count b).line ∧ next.start = s.start) ∨
    s.step delimiter b = (s.count b).endRow b := by
  have hcount : (s.count b).mode = s.mode := rfl
  unfold step
  simp only [hcount]
  split
  · rename_i hmode
    split
    · rename_i hb
      exact .inl ⟨hb, by simp [isOpen, finish?, hmode], rfl⟩
    · exact .inr ((s.count b).fieldStart_cases delimiter b)
  · rename_i hmode
    split
    · rename_i hb
      exact .inl ⟨hb, by simp [isOpen, finish?, hmode], rfl⟩
    · exact .inr ((s.count b).fieldStart_cases delimiter b)
  · exact .inr ((s.count b).fieldStart_cases delimiter b)
  · exact .inr ((s.count b).unquoted_cases delimiter b)
  · split <;> exact .inr (.inl ⟨_, rfl, rfl, rfl, rfl⟩)
  · split
    · exact .inr (.inl ⟨_, rfl, rfl, rfl, rfl⟩)
    · exact .inr ((s.count b).unquoted_cases delimiter b)

theorem line_count (s : Scanner) (b : UInt8) : (s.count b).line = s.line + lineFeeds [b] := by
  by_cases hb : b = lineFeed <;> simp [count, lineFeeds, hb]

theorem line_step : (s.step delimiter b).1.line = s.line + lineFeeds [b] := by
  rcases step_cases delimiter s b with ⟨_, _, hstep⟩ | ⟨next, hstep, _, hline, _⟩ | hstep <;>
    rw [hstep]
  · exact s.line_count b
  · exact hline.trans (s.line_count b)
  · exact s.line_count b

/-- A byte that ends no row leaves the position of the row as it is. -/
theorem start_of_step_eq_none (h : (s.step delimiter b).2 = none) :
    (s.step delimiter b).1.start = s.start := by
  rcases step_cases delimiter s b with ⟨_, _, hstep⟩ | ⟨next, hstep, _, _, hstart⟩ | hstep
  · rw [hstep]
    rfl
  · rw [hstep]
    exact hstart
  · rw [hstep] at h
    cases h

/-- Nothing but the end of a row leads out of it. -/
theorem isOpen_of_step_eq_none (h : (s.step delimiter b).2 = none)
    (hopen : isTerminator b = true → s.isOpen = true) :
    (s.step delimiter b).1.isOpen = true := by
  rcases step_cases delimiter s b with ⟨hb, hclosed, _⟩ | ⟨next, hstep, hnext, _⟩ | hstep
  · cases hclosed.symm.trans (hopen hb)
  · rw [hstep]
    exact hnext
  · rw [hstep] at h
    cases h

/-- Behind the end of a row the next one is taken to begin. -/
theorem ends_of_step_eq_some (h : (s.step delimiter b).2 = some raw) :
    raw.position = s.start ∧ (s.step delimiter b).1.Rests ∧
      (s.step delimiter b).1.start.line = (s.step delimiter b).1.line := by
  rcases step_cases delimiter s b with ⟨_, _, hstep⟩ | ⟨next, hstep, _⟩ | hstep
  · rw [hstep] at h
    cases h
  · rw [hstep] at h
    cases h
  · rw [hstep] at h ⊢
    cases h
    refine ⟨rfl, ⟨?_, rfl, rfl⟩, rfl⟩
    by_cases hb : b = carriageReturn <;> simp [endRow, hb]

/-- A resting scanner skips a line end. -/
theorem Rests.step_terminator (h : s.Rests) (delimiter : UInt8) (hb : isTerminator b = true) :
    (s.step delimiter b).1.Rests ∧ (s.step delimiter b).2 = none := by
  unfold step
  rcases h with ⟨hmode, hfield, hfields⟩
  rcases hmode with hmode | hmode <;>
    simp only [count, hmode, hb, if_true] <;> exact ⟨⟨.inl rfl, hfield, hfields⟩, trivial⟩

/-- A resting scanner takes any other byte as the first of a row. -/
theorem Rests.step_of_not_terminator (h : s.Rests) (hb : isTerminator b = false) :
    s.step delimiter b = (s.count b).fieldStart delimiter b := by
  unfold step
  rcases h.mode with hmode | hmode <;> simp [count, hmode, hb]

theorem Rests.step_eq_none (h : s.Rests) (delimiter : UInt8) (hb : isTerminator b = false) :
    (s.step delimiter b).2 = none := by
  rw [h.step_of_not_terminator hb]
  unfold fieldStart unquoted
  split
  · rfl
  · split
    · rfl
    · simp [hb]

/-! ## Scanners at other positions -/

/-- Whether two scanners go on alike, wherever they are in a text. -/
structure Like (s t : Scanner) : Prop where
  mode : s.mode = t.mode
  field : s.field = t.field
  fields : s.fields = t.fields

/-- A byte of a row that is not quoted is taken alike, whatever the modes were. -/
theorem unquoted_like (hfield : s.field = t.field) (hfields : s.fields = t.fields)
    (delimiter b : UInt8) :
    (s.unquoted delimiter b).1.Like (t.unquoted delimiter b).1 ∧
      (s.unquoted delimiter b).2.map RawRow.fields =
        (t.unquoted delimiter b).2.map RawRow.fields := by
  unfold unquoted
  split
  · exact ⟨⟨rfl, rfl, by simp [endField, hfield, hfields]⟩, rfl⟩
  · split
    · exact ⟨⟨rfl, rfl, rfl⟩, by simp [endRow, row, hfield, hfields]⟩
    · exact ⟨⟨rfl, by simp [push, hfield], hfields⟩, rfl⟩

theorem fieldStart_like (hfield : s.field = t.field) (hfields : s.fields = t.fields)
    (delimiter b : UInt8) :
    (s.fieldStart delimiter b).1.Like (t.fieldStart delimiter b).1 ∧
      (s.fieldStart delimiter b).2.map RawRow.fields =
        (t.fieldStart delimiter b).2.map RawRow.fields := by
  unfold fieldStart
  split
  · exact ⟨⟨rfl, hfield, hfields⟩, rfl⟩
  · exact unquoted_like hfield hfields delimiter b

theorem Like.step (h : s.Like t) (delimiter b : UInt8) :
    (s.step delimiter b).1.Like (t.step delimiter b).1 ∧
      (s.step delimiter b).2.map RawRow.fields = (t.step delimiter b).2.map RawRow.fields := by
  have hmode : (s.count b).mode = (t.count b).mode := h.mode
  have hfield : (s.count b).field = (t.count b).field := h.field
  have hfields : (s.count b).fields = (t.count b).fields := h.fields
  have hkept : ∀ mode, ({ s.count b with mode } : Scanner).Like { t.count b with mode } :=
    fun mode => ⟨rfl, h.field, h.fields⟩
  have hpushed : ∀ mode, ((s.count b).push b mode).Like ((t.count b).push b mode) :=
    fun mode => ⟨rfl, congrArg (b :: ·) hfield, h.fields⟩
  unfold Scanner.step
  simp only [hmode]
  split
  · split
    · exact ⟨hkept _, rfl⟩
    · exact fieldStart_like hfield hfields delimiter b
  · split
    · exact ⟨hkept _, rfl⟩
    · exact fieldStart_like hfield hfields delimiter b
  · exact fieldStart_like hfield hfields delimiter b
  · exact unquoted_like hfield hfields delimiter b
  · split
    · exact ⟨hkept _, rfl⟩
    · exact ⟨hpushed _, rfl⟩
  · split
    · exact ⟨hpushed _, rfl⟩
    · exact unquoted_like hfield hfields delimiter b

/-- Resting scanners take the first byte of a row alike. -/
theorem Rests.step_like (hs : s.Rests) (ht : t.Rests) (hb : isTerminator b = false) :
    (s.step delimiter b).1.Like (t.step delimiter b).1 := by
  rw [hs.step_of_not_terminator hb, ht.step_of_not_terminator hb]
  have hfield : (s.count b).field = (t.count b).field := hs.field.trans ht.field.symm
  have hfields : (s.count b).fields = (t.count b).fields := hs.fields.trans ht.fields.symm
  exact (fieldStart_like hfield hfields delimiter b).1

/-! ## Some bytes -/

theorem run_step (delimiter : UInt8) (s : Scanner) (acc : List RawRow) (b : UInt8)
    (rest : List UInt8) :
    s.run delimiter acc (b :: rest) =
      (s.step delimiter b).1.run delimiter ((s.step delimiter b).2.toList ++ acc) rest := by
  rw [run]
  rcases s.step delimiter b with ⟨next, _ | raw⟩ <;> rfl

/-- The rows that were found before are only kept. -/
theorem run_eq (delimiter : UInt8) (s : Scanner) (acc : List RawRow) (bytes : List UInt8) :
    s.run delimiter acc bytes =
      ((s.run delimiter [] bytes).1, (s.run delimiter [] bytes).2 ++ acc) := by
  induction bytes generalizing s acc with
  | nil => rfl
  | cons b rest ih =>
    rw [run_step, run_step, ih, ih _ ((s.step delimiter b).2.toList ++ [])]
    simp

theorem run_cons (delimiter : UInt8) (s : Scanner) (b : UInt8) (rest : List UInt8) :
    s.run delimiter [] (b :: rest) =
      (((s.step delimiter b).1.run delimiter [] rest).1,
        ((s.step delimiter b).1.run delimiter [] rest).2 ++ (s.step delimiter b).2.toList) := by
  rw [run_step, run_eq, List.append_nil]

theorem run_append (delimiter : UInt8) (s : Scanner) (front rest : List UInt8) :
    s.run delimiter [] (front ++ rest) =
      (((s.run delimiter [] front).1.run delimiter [] rest).1,
        ((s.run delimiter [] front).1.run delimiter [] rest).2 ++
          (s.run delimiter [] front).2) := by
  induction front generalizing s with
  | nil => simp [run]
  | cons b front ih => rw [List.cons_append, run_cons, ih, run_cons, List.append_assoc]

theorem line_run (delimiter : UInt8) (s : Scanner) (bytes : List UInt8) :
    (s.run delimiter [] bytes).1.line = s.line + lineFeeds bytes := by
  induction bytes generalizing s with
  | nil => rfl
  | cons b rest ih =>
    rw [run_cons, ih, line_step, lineFeeds_cons b rest, Nat.add_assoc]

/-- Bytes that end no row leave the position of the row as it is. -/
theorem start_run {bytes : List UInt8} (h : (s.run delimiter [] bytes).2 = []) :
    (s.run delimiter [] bytes).1.start = s.start := by
  induction bytes generalizing s with
  | nil => rfl
  | cons b rest ih =>
    rw [run_cons] at h ⊢
    rcases List.append_eq_nil_iff.1 h with ⟨hrest, hfirst⟩
    have hnone : (s.step delimiter b).2 = none := by simpa using hfirst
    rw [ih hrest, start_of_step_eq_none hnone]

theorem isOpen_run {bytes : List UInt8} (hopen : s.isOpen = true)
    (h : (s.run delimiter [] bytes).2 = []) : (s.run delimiter [] bytes).1.isOpen = true := by
  induction bytes generalizing s with
  | nil => exact hopen
  | cons b rest ih =>
    rw [run_cons] at h ⊢
    rcases List.append_eq_nil_iff.1 h with ⟨hrest, hfirst⟩
    have hnone : (s.step delimiter b).2 = none := by simpa using hfirst
    exact ih (isOpen_of_step_eq_none hnone fun _ => hopen) hrest

theorem Like.run (h : s.Like t) (delimiter : UInt8) (bytes : List UInt8) :
    (s.run delimiter [] bytes).1.Like (t.run delimiter [] bytes).1 ∧
      (s.run delimiter [] bytes).2.map RawRow.fields =
        (t.run delimiter [] bytes).2.map RawRow.fields := by
  induction bytes generalizing s t with
  | nil => exact ⟨h, rfl⟩
  | cons b rest ih =>
    rcases h.step delimiter b with ⟨hnext, hrow⟩
    rcases ih hnext with ⟨hlike, hrows⟩
    rw [run_cons, run_cons]
    refine ⟨hlike, ?_⟩
    rw [List.map_append, List.map_append, hrows, ← Option.toList_map, ← Option.toList_map, hrow]

theorem Like.finish? (h : s.Like t) :
    s.finish?.map RawRow.fields = t.finish?.map RawRow.fields := by
  unfold Scanner.finish?
  rw [h.mode]
  split <;> simp [row, h.field, h.fields]

theorem position_of_finish? (h : s.finish? = some raw) : raw.position = s.start := by
  unfold finish? at h
  split at h <;> cases h
  rfl

theorem Rests.run_terminators (h : s.Rests) (delimiter : UInt8) {gap : List UInt8}
    (hgap : ∀ b ∈ gap, isTerminator b = true) :
    (s.run delimiter [] gap).1.Rests ∧ (s.run delimiter [] gap).2 = [] := by
  induction gap generalizing s with
  | nil => exact ⟨h, rfl⟩
  | cons b rest ih =>
    rcases h.step_terminator delimiter (hgap b List.mem_cons_self) with
      ⟨hrests, hnone⟩
    rw [run_cons, hnone]
    have hrest := ih hrests fun b hb => hgap b (List.mem_cons_of_mem _ hb)
    exact ⟨hrest.1, by rw [hrest.2]; rfl⟩

/-- Either bytes end no row, or there is one byte that ends the first. -/
theorem first_row_cases (delimiter : UInt8) (s : Scanner) (bytes : List UInt8) :
    (s.run delimiter [] bytes).2 = [] ∨
      ∃ front b rest raw, bytes = front ++ b :: rest ∧ (s.run delimiter [] front).2 = [] ∧
        ((s.run delimiter [] front).1.step delimiter b).2 = some raw := by
  induction bytes generalizing s with
  | nil => exact .inl rfl
  | cons b rest ih =>
    cases hstep : (s.step delimiter b).2 with
    | some raw => exact .inr ⟨[], b, rest, raw, rfl, rfl, hstep⟩
    | none =>
      rw [run_cons, hstep]
      rcases ih (s.step delimiter b).1 with hnone | ⟨front, b', rest', raw, rfl, hfront, hends⟩
      · exact .inl (by rw [hnone]; rfl)
      · refine .inr ⟨b :: front, b', rest', raw, rfl, ?_, ?_⟩
        · rw [run_cons, hstep, hfront]
          rfl
        · rw [run_cons]
          exact hends

end Scanner

end Csv
end RecordFlow
