import RecordFlow.Proofs.Csv.Scanner

/-!
# Layout — where the rows of a text stand

A text is a sequence of rows with line ends between them (`Layout`).  A row begins with its first
byte that is no line end and reaches to the line end behind it, and read alone it is one row.

* `exists_laidOut` says that every text can be laid out like this,
* `LaidOut.tells` says that the tokenizer finds exactly these rows, and that it gives each of them
  the line on which the row before ended, behind its line end.
-/

namespace RecordFlow
namespace Csv

/-! ## Rows in a text -/

/-- The scanner of a text of its own, and the rows that it has found. -/
def scan (delimiter : UInt8) (bytes : List UInt8) : Scanner × List RawRow :=
  (Scanner.initial 0).run delimiter [] bytes

/-- Whether bytes begin with a row and do not end it. -/
structure Unfinished (delimiter : UInt8) (body : List UInt8) : Prop where
  begins : ∃ b rest, body = b :: rest ∧ isTerminator b = false
  unended : (scan delimiter body).2 = []

/-- Whether bytes are one row that ends with the last of them. -/
structure Finished (delimiter : UInt8) (body : List UInt8) (fields : List (List UInt8)) : Prop where
  unfinished : ∃ front b, body = front ++ [b] ∧ Unfinished delimiter front
  fields : (scan delimiter body).2.map RawRow.fields = [fields]

/-- A row as it stands in a text: the line ends before it, its bytes with the line end behind it,
and its fields. -/
structure Piece where
  gap : List UInt8
  body : List UInt8
  fields : List (List UInt8)
deriving DecidableEq, Repr

def Piece.bytes (p : Piece) : List UInt8 := p.gap ++ p.body

/-- How the rows stand in a text.  The last row may have no line end behind it; if the text is
broken off there, it is not counted as a row. -/
inductive Layout (delimiter : UInt8) (broken : Bool) : List UInt8 → List Piece → Prop where
  | blank {gap : List UInt8} : (∀ b ∈ gap, isTerminator b = true) → Layout delimiter broken gap []
  | cut {gap body : List UInt8} :
      broken = true → (∀ b ∈ gap, isTerminator b = true) → Unfinished delimiter body →
      Layout delimiter broken (gap ++ body) []
  | last {p : Piece} :
      broken = false → (∀ b ∈ p.gap, isTerminator b = true) → Unfinished delimiter p.body →
      (scan delimiter p.body).1.finish?.map RawRow.fields = some p.fields →
      Layout delimiter broken p.bytes [p]
  | row {p : Piece} {rest : List UInt8} {pieces : List Piece} :
      (∀ b ∈ p.gap, isTerminator b = true) → Finished delimiter p.body p.fields →
      Layout delimiter broken rest pieces →
      Layout delimiter broken (p.bytes ++ rest) (p :: pieces)

/-! ## Layouts and the tokenizer -/

variable {delimiter : UInt8} {broken : Bool} {s : Scanner} {gap body bytes : List UInt8}

theorem Unfinished.run_like (h : Unfinished delimiter body) (hs : s.Rests) :
    (s.run delimiter [] body).1.Like (scan delimiter body).1 ∧
      (s.run delimiter [] body).2 = [] := by
  rcases h.begins with ⟨b, rest, rfl, hb⟩
  have hinitial := Scanner.rests_initial 0
  rcases (hs.step_like hinitial hb).run delimiter rest with ⟨hlike, hrows⟩
  have hscan : (scan delimiter (b :: rest)).2 = [] := h.unended
  rw [scan, Scanner.run_cons, hinitial.step_eq_none delimiter hb] at hscan
  rw [scan, Scanner.run_cons, Scanner.run_cons, hs.step_eq_none delimiter hb]
  refine ⟨hlike, ?_⟩
  have hnone := (List.append_eq_nil_iff.1 hscan).1
  rw [hnone, List.map_nil, List.map_eq_nil_iff] at hrows
  rw [hrows]
  rfl

/-- Line ends and the row behind them are read as the row, on the line where the line ends began. -/
theorem Unfinished.run (h : Unfinished delimiter body) (hs : s.Rests)
    (hgap : ∀ b ∈ gap, isTerminator b = true) :
    (s.run delimiter [] (gap ++ body)).1.Like (scan delimiter body).1 ∧
      (s.run delimiter [] (gap ++ body)).2 = [] ∧
      (s.run delimiter [] (gap ++ body)).1.start = s.start := by
  rcases hs.run_terminators delimiter hgap with ⟨hrests, hskipped⟩
  rcases h.run_like hrests with ⟨hlike, hnone⟩
  have hrows : (s.run delimiter [] (gap ++ body)).2 = [] := by
    rw [Scanner.run_append, hnone, hskipped]
    rfl
  refine ⟨?_, hrows, Scanner.start_run hrows⟩
  rw [Scanner.run_append]
  exact hlike

/-- A scanner that reads a whole row gives it the line where it was, and rests behind it. -/
theorem Finished.run {fields : List (List UInt8)} (h : Finished delimiter body fields)
    (hs : s.Rests) (hgap : ∀ b ∈ gap, isTerminator b = true) :
    ∃ raw, (s.run delimiter [] (gap ++ body)).2 = [raw] ∧ raw.fields = fields ∧
      raw.position = s.start ∧ (s.run delimiter [] (gap ++ body)).1.Rests ∧
      (s.run delimiter [] (gap ++ body)).1.start.line =
        (s.run delimiter [] (gap ++ body)).1.line := by
  rcases h.unfinished with ⟨front, b, rfl, hfront⟩
  rcases hfront.run hs hgap with ⟨hlike, hnone, hstart⟩
  -- the last byte is taken as it is when the row is read alone, and there it ends the row
  have hfields := h.fields
  rw [scan, Scanner.run_append, Scanner.run_cons] at hfields
  rcases hlike.step delimiter b with ⟨-, hrow⟩
  have halone : (scan delimiter front).2 = [] := hfront.unended
  rw [scan] at halone hrow
  rw [halone] at hfields
  have hends : ((s.run delimiter [] (gap ++ front)).1.step delimiter b).2.map RawRow.fields =
      some fields := by
    rw [hrow]
    cases hlast : (((Scanner.initial 0).run delimiter [] front).1.step delimiter b).2 with
    | none => simp [Scanner.run, hlast] at hfields
    | some raw =>
      simp only [Scanner.run, hlast, Option.toList_some, List.nil_append, List.append_nil,
        List.map_cons, List.map_nil, List.cons.injEq, and_true] at hfields
      rw [Option.map_some, hfields]
  rcases Option.map_eq_some_iff.1 hends with ⟨raw, hraw, rfl⟩
  rcases Scanner.ends_of_step_eq_some hraw with ⟨hposition, hrests, hline⟩
  rw [← List.append_assoc, Scanner.run_append, Scanner.run_cons, hnone, hraw]
  exact ⟨raw, rfl, rfl, hposition.trans hstart, hrests, hline⟩

def rowsOf (broken : Bool) (out : Scanner × List RawRow) : List RawRow :=
  out.2.reverse ++ if broken then [] else out.1.finish?.toList

/-- The lines on which the rows of some pieces are taken to begin, from a line on. -/
def startsFrom (line : Nat) : List Piece → List Nat
  | [] => []
  | p :: rest => line :: startsFrom (line + lineFeeds p.bytes) rest

/-- The tokenizer finds the rows of a layout, and takes each of them to begin where the row before
it has ended. -/
theorem Layout.rows {pieces : List Piece} (h : Layout delimiter broken bytes pieces)
    (hs : s.Rests) (hstart : s.start.line = s.line) :
    (rowsOf broken (s.run delimiter [] bytes)).map RawRow.fields = pieces.map Piece.fields ∧
      (rowsOf broken (s.run delimiter [] bytes)).map (fun raw => raw.position.line) =
        startsFrom s.line pieces := by
  induction h generalizing s with
  | blank hgap =>
    rcases hs.run_terminators delimiter hgap with ⟨hrests, hnone⟩
    cases broken <;> simp [rowsOf, hnone, hrests.finish?_eq_none, startsFrom]
  | cut hbroken hgap hbody =>
    have hnone := (hbody.run hs hgap).2.1
    simp [rowsOf, hnone, hbroken, startsFrom]
  | @last p hbroken hgap hbody hfields =>
    rcases hbody.run hs hgap with ⟨hlike, hnone, hkept⟩
    have hlast := hlike.finish?.trans hfields
    rcases Option.map_eq_some_iff.1 hlast with ⟨raw, hraw, hrow⟩
    have hposition := (Scanner.position_of_finish? hraw).trans hkept
    have hrows : rowsOf broken (s.run delimiter [] p.bytes) = [raw] := by
      rw [rowsOf, Piece.bytes, hnone, hraw, hbroken]
      rfl
    rw [hrows]
    simp [hrow, hposition, hstart, startsFrom]
  | @row p rest pieces hgap hbody _ ih =>
    rcases hbody.run hs hgap with ⟨raw, hraw, hfields, hposition, hrests, hline⟩
    rcases ih hrests hline with ⟨hrestFields, hrestLines⟩
    have hrows : rowsOf broken (s.run delimiter [] (p.bytes ++ rest)) =
        raw :: rowsOf broken ((s.run delimiter [] (p.gap ++ p.body)).1.run delimiter [] rest) := by
      rw [rowsOf, Scanner.run_append, Piece.bytes, hraw, List.reverse_append]
      rfl
    have hnext := Scanner.line_run delimiter s (p.gap ++ p.body)
    rw [hrows]
    constructor
    · rw [List.map_cons, List.map_cons, hfields, hrestFields]
    · rw [List.map_cons, hrestLines, hposition, hstart, hnext]
      rfl

theorem Unfinished.isOpen (h : Unfinished delimiter body) :
    (scan delimiter body).1.isOpen = true := by
  rcases h.begins with ⟨b, rest, rfl, hb⟩
  have hnone := (Scanner.rests_initial 0).step_eq_none delimiter hb
  have hunended := h.unended
  rw [scan, Scanner.run_cons] at hunended ⊢
  refine Scanner.isOpen_run ?_ (List.append_eq_nil_iff.1 hunended).1
  exact Scanner.isOpen_of_step_eq_none hnone fun hterminator => by cases hb.symm.trans hterminator

/-- Bytes part into line ends and what begins with another byte. -/
theorem exists_gap (bytes : List UInt8) :
    ∃ gap body, bytes = gap ++ body ∧ (∀ b ∈ gap, isTerminator b = true) ∧
      ∀ b ∈ body.head?, isTerminator b = false := by
  induction bytes with
  | nil => exact ⟨[], [], rfl, by simp, by simp⟩
  | cons b rest ih =>
    cases hb : isTerminator b with
    | false => exact ⟨[], b :: rest, rfl, by simp, by simpa using hb⟩
    | true =>
      rcases ih with ⟨gap, body, rfl, hgap, hbody⟩
      refine ⟨b :: gap, body, rfl, ?_, hbody⟩
      intro b' hb'
      rcases List.mem_cons.1 hb' with rfl | hb'
      · exact hb
      · exact hgap b' hb'

theorem exists_layout (delimiter : UInt8) (broken : Bool) (bytes : List UInt8) :
    ∃ pieces, Layout delimiter broken bytes pieces := by
  -- row by row: what is left behind a row is shorter
  induction hlength : bytes.length using Nat.strongRecOn generalizing bytes with
  | ind n ih =>
    rcases exists_gap bytes with ⟨gap, _ | ⟨first, body⟩, rfl, hgap, hbody⟩
    · exact ⟨[], (List.append_nil gap).symm ▸ .blank hgap⟩
    have hfirst : isTerminator first = false := hbody first rfl
    rcases Scanner.first_row_cases delimiter (.initial 0) (first :: body) with
      hnone | ⟨front, b, rest, raw, hrow, hfront, hends⟩
    · -- the last row
      have hunfinished : Unfinished delimiter (first :: body) :=
        ⟨⟨first, body, rfl, hfirst⟩, hnone⟩
      cases broken with
      | true => exact ⟨[], .cut rfl hgap hunfinished⟩
      | false =>
        rcases Option.isSome_iff_exists.1 hunfinished.isOpen with ⟨raw, hraw⟩
        exact ⟨[⟨gap, first :: body, raw.fields⟩],
          .last (p := ⟨gap, first :: body, raw.fields⟩) rfl hgap hunfinished (by rw [hraw]; rfl)⟩
    · -- the first byte ends no row, so that it is before the one that does
      rcases front with _ | ⟨first', front⟩
      · cases hrow
        rw [Scanner.run, (Scanner.rests_initial 0).step_eq_none delimiter hfirst] at hends
        cases hends
      · have hsame : first = first' ∧ body = front ++ b :: rest := by simpa using hrow
        rcases hsame with ⟨rfl, rfl⟩
        have hunfinished : Unfinished delimiter (first :: front) :=
          ⟨⟨first, front, rfl, hfirst⟩, hfront⟩
        have hfinished : Finished delimiter (first :: front ++ [b]) raw.fields := by
          refine ⟨⟨_, b, rfl, hunfinished⟩, ?_⟩
          rw [scan, Scanner.run_append, Scanner.run_cons, hends, hfront]
          rfl
        have hshorter : rest.length < n := by
          rw [← hlength]
          simp
          omega
        rcases ih _ hshorter rest rfl with ⟨pieces, hpieces⟩
        have hlayout := Layout.row (p := ⟨gap, first :: front ++ [b], raw.fields⟩) hgap hfinished
          hpieces
        refine ⟨⟨gap, first :: front ++ [b], raw.fields⟩ :: pieces, ?_⟩
        simpa [Piece.bytes] using hlayout

/-! ## Lines -/

/-- The byte order mark of a text, if it has one among the bytes that come at once. -/
def markOf (lead : Nat) (text : List UInt8) : List UInt8 :=
  if isMarked lead text then byteOrderMark else []

/-- What is read of a text: all of it behind its byte order mark, unless nothing but the mark comes
at once. -/
def readOf (lead : Nat) (text : List UInt8) : List UInt8 :=
  if stopsAtMark lead text then [] else text.drop (markOf lead text).length

/-- The fault behind what is read of a text. -/
def faultOf (lead : Nat) (text : List UInt8) (fault : Option FlowError) : Option FlowError :=
  if stopsAtMark lead text then none else fault

/-- Whether what is read of a text is laid out in some rows. -/
def LaidOut (delimiter : UInt8) (broken : Bool) (lead : Nat) (text : List UInt8)
    (pieces : List Piece) : Prop :=
  Layout delimiter broken (readOf lead text) pieces

/-- The line that is told of the row at a place: the one behind the row before it. -/
def lineBefore (pieces : List Piece) (k : Nat) : Nat :=
  1 + lineFeeds ((pieces.take k).flatMap Piece.bytes)

/-- The bytes of a text that precede the first byte of the row at a place. -/
def before (mark : List UInt8) (pieces : List Piece) (k : Nat) : List UInt8 :=
  mark ++ (pieces.take k).flatMap Piece.bytes ++ (pieces[k]?.map Piece.gap).getD []

/-- The line on which the row at a place begins. -/
def lineOf (mark : List UInt8) (pieces : List Piece) (k : Nat) : Nat :=
  1 + lineFeeds (before mark pieces k)

/-- Whether a row stands at a place of a text. -/
structure StandsAt (text mark : List UInt8) (pieces : List Piece) (k : Nat) (p : Piece) : Prop where
  piece : pieces[k]? = some p
  text : ∃ behind, text = before mark pieces k ++ p.body ++ behind

variable {text mark : List UInt8} {lead : Nat} {pieces : List Piece} {k : Nat} {p : Piece}

theorem markOf_append_drop (lead : Nat) (text : List UInt8) :
    markOf lead text ++ text.drop (markOf lead text).length = text := by
  unfold markOf
  split
  · rename_i hmarked
    have hstarts : byteOrderMark <+: text :=
      List.isPrefixOf_iff_prefix.1 (Bool.and_eq_true_iff.1 hmarked).1
    rcases hstarts with ⟨rest, rfl⟩
    rw [List.drop_left]
  · rfl

theorem exists_unread (lead : Nat) (text : List UInt8) :
    ∃ unread, text = markOf lead text ++ readOf lead text ++ unread := by
  have hwhole := markOf_append_drop lead text
  unfold readOf
  split
  · rw [List.append_nil]
    exact ⟨_, hwhole.symm⟩
  · exact ⟨[], by rw [List.append_nil]; exact hwhole.symm⟩

theorem lineFeeds_markOf (lead : Nat) (text : List UInt8) : lineFeeds (markOf lead text) = 0 := by
  unfold markOf
  split <;> rfl

theorem Layout.exists_tail (h : Layout delimiter broken bytes pieces) :
    ∃ tail, bytes = pieces.flatMap Piece.bytes ++ tail := by
  induction h with
  | @blank gap _ => exact ⟨gap, rfl⟩
  | @cut gap body _ _ _ => exact ⟨gap ++ body, rfl⟩
  | @last p _ _ _ _ => exact ⟨[], by simp⟩
  | @row p rest pieces _ _ _ ih =>
    rcases ih with ⟨tail, rfl⟩
    exact ⟨tail, by simp⟩

/-- A row stands in the text behind the bytes before it. -/
theorem LaidOut.standsAt (h : LaidOut delimiter broken lead text pieces)
    (hp : pieces[k]? = some p) : StandsAt text (markOf lead text) pieces k p := by
  rcases Layout.exists_tail h with ⟨tail, htail⟩
  rcases List.getElem?_eq_some_iff.1 hp with ⟨hk, rfl⟩
  have hsplit : pieces = pieces.take k ++ pieces[k] :: pieces.drop (k + 1) := by
    rw [← List.drop_eq_getElem_cons hk, List.take_append_drop]
  have hbytes : pieces.flatMap Piece.bytes = (pieces.take k).flatMap Piece.bytes ++
      (pieces[k].bytes ++ (pieces.drop (k + 1)).flatMap Piece.bytes) := by
    conv_lhs => rw [hsplit]
    rw [List.flatMap_append, List.flatMap_cons]
  rcases exists_unread lead text with ⟨unread, htext⟩
  refine ⟨hp, (pieces.drop (k + 1)).flatMap Piece.bytes ++ tail ++ unread, ?_⟩
  rw [htail, hbytes] at htext
  rw [before, hp]
  simpa [Piece.bytes] using htext

/-- The line ends before a row are not counted with it. -/
theorem StandsAt.lineOf_eq (h : StandsAt text mark pieces k p) (hmark : lineFeeds mark = 0) :
    lineOf mark pieces k = lineBefore pieces k + lineFeeds p.gap := by
  simp [lineOf, before, lineBefore, h.piece, hmark, Nat.add_assoc]

theorem lineBefore_zero (pieces : List Piece) : lineBefore pieces 0 = 1 := rfl

theorem lineBefore_succ (hp : pieces[k]? = some p) :
    lineBefore pieces (k + 1) = lineBefore pieces k + lineFeeds p.bytes := by
  simp [lineBefore, List.take_add_one, hp, Nat.add_assoc]

theorem getElem?_startsFrom (line : Nat) (pieces : List Piece) (k : Nat) :
    (startsFrom line pieces)[k]? =
      pieces[k]?.map fun _ => line + lineFeeds ((pieces.take k).flatMap Piece.bytes) := by
  induction pieces generalizing line k with
  | nil => rfl
  | cons p rest ih =>
    cases k with
    | zero => simp [startsFrom]
    | succ k => simp [startsFrom, ih, Nat.add_assoc]

/-! ## Rows of text -/

/-- A row that could be read is one of the rows found, on the line where that is taken to begin. -/
theorem exists_raw_of_getElem?_decodeRows {fault : Option FlowError} {raws : List RawRow}
    {row : Row} (h : (decodeRows fault raws).rows[k]? = some row) :
    ∃ raw, raws[k]? = some raw ∧ decodeFields 0 raw.fields = .ok row.fields ∧
      row.line = raw.position.line := by
  induction raws generalizing k with
  | nil => cases h
  | cons raw rest ih =>
    unfold decodeRows decodeRow at h
    cases hfields : decodeFields 0 raw.fields with
    | error e => simp [hfields] at h
    | ok fields =>
      cases k with
      | zero =>
        have hrow : (⟨fields, raw.position.line⟩ : Row) = row := by simpa [hfields] using h
        rw [← hrow]
        exact ⟨raw, rfl, hfields, rfl⟩
      | succ k =>
        have hrest : (decodeRows fault rest).rows[k]? = some row := by simpa [hfields] using h
        exact ih hrest

/-- All rows that were found could be read, or the next one is no text. -/
theorem decodeRows_cases (fault : Option FlowError) (raws : List RawRow) :
    ((decodeRows fault raws).rows.length = raws.length ∧ (decodeRows fault raws).fault = fault) ∨
    ∃ raw field good, raws[(decodeRows fault raws).rows.length]? = some raw ∧
      decodeFields 0 raw.fields = .error (field, good) ∧
      (decodeRows fault raws).fault = some (notText raw.position field good) := by
  induction raws with
  | nil => exact .inl ⟨rfl, rfl⟩
  | cons raw rest ih =>
    unfold decodeRows decodeRow
    cases hfields : decodeFields 0 raw.fields with
    | error bad => exact .inr ⟨raw, bad.1, bad.2, by simp, hfields, rfl⟩
    | ok fields =>
      rcases ih with ⟨hall, hfault⟩ | ⟨raw', field, good, hraw', hbad, hfault⟩
      · exact .inl ⟨by simp [hall], hfault⟩
      · exact .inr ⟨raw', field, good, by simpa using hraw', hbad, hfault⟩

/-- Whether the fields of a row are text. -/
def Piece.IsText (p : Piece) : Prop := ∃ fields, decodeFields 0 p.fields = .ok fields

theorem Piece.not_isText {bad : Nat × Nat} (h : decodeFields 0 p.fields = .error bad) :
    ¬ p.IsText := by
  rintro ⟨fields, hfields⟩
  cases h.symm.trans hfields

/-- What the tokens of a text tell of its rows. -/
structure Tokens.Tells (tokens : Tokens) (fault : Option FlowError) (pieces : List Piece) :
    Prop where
  rows : ∀ k row, tokens.rows[k]? = some row →
    ∃ p, pieces[k]? = some p ∧ decodeFields 0 p.fields = .ok row.fields ∧
      row.line = lineBefore pieces k
  /-- The rows end with the fault of the text, or with a row that is no text. -/
  ending : (tokens.rows.length = pieces.length ∧ tokens.fault = fault) ∨
    ∃ p field good position, pieces[tokens.rows.length]? = some p ∧
      decodeFields 0 p.fields = .error (field, good) ∧
      tokens.fault = some (notText position field good)

namespace Tokens.Tells

variable {tokens : Tokens} {fault : Option FlowError}

theorem isText_of_lt (h : tokens.Tells fault pieces) (hp : pieces[k]? = some p)
    (hk : k < tokens.rows.length) : p.IsText := by
  rcases h.rows k _ (List.getElem?_eq_getElem hk) with ⟨q, hq, hdecodes, _⟩
  cases hp.symm.trans hq
  exact ⟨_, hdecodes⟩

/-- What is in front of the first row that is no text is text. -/
theorem isText_of_mem_take (h : tokens.Tells fault pieces)
    (hp : p ∈ pieces.take tokens.rows.length) : p.IsText := by
  rcases List.mem_take_iff_getElem.1 hp with ⟨k, hk, rfl⟩
  exact h.isText_of_lt (List.getElem?_eq_getElem (by omega)) (by omega)

/-- Rows in front of the first that is no text have been read. -/
theorem le_length (h : tokens.Tells fault pieces) (hk : k ≤ pieces.length)
    (htext : ∀ q ∈ pieces.take k, q.IsText) : k ≤ tokens.rows.length := by
  rcases h.ending with ⟨hall, _⟩ | ⟨q, field, good, _, hq, hbad, _⟩
  · omega
  · by_contra hlt
    rcases List.getElem?_eq_some_iff.1 hq with ⟨hlength, rfl⟩
    have hmem : pieces[tokens.rows.length] ∈ pieces.take k :=
      List.mem_take_iff_getElem.2 ⟨_, by omega, rfl⟩
    exact Piece.not_isText hbad (htext _ hmem)

/-- Behind rows that are text, the first that is none ends the rows with a fault of its own. -/
theorem exists_fault (h : tokens.Tells fault pieces) (hp : pieces[k]? = some p)
    (hbad : ¬ p.IsText) (htext : ∀ q ∈ pieces.take k, q.IsText) :
    tokens.rows.length = k ∧ ∃ message, tokens.fault = some (.invalidCsv message) := by
  have hk : k < pieces.length := (List.getElem?_eq_some_iff.1 hp).1
  have hle := h.le_length (by omega) htext
  have hge : ¬ k < tokens.rows.length := fun hlt => hbad (h.isText_of_lt hp hlt)
  refine ⟨by omega, ?_⟩
  rcases h.ending with ⟨hall, _⟩ | ⟨_, _, _, _, _, _, hfault⟩
  · omega
  · exact ⟨_, hfault⟩

end Tokens.Tells

theorem exists_laidOut (delimiter : UInt8) (broken : Bool) (lead : Nat) (text : List UInt8) :
    ∃ pieces, LaidOut delimiter broken lead text pieces :=
  exists_layout delimiter broken _

theorem tokenize_eq_decodeRows (delimiter : UInt8) (lead : Nat) (text : List UInt8)
    (fault : Option FlowError) :
    tokenize delimiter lead text fault = decodeRows (faultOf lead text fault)
      (rowsOf fault.isSome
        ((Scanner.initial (markOf lead text).length).run delimiter [] (readOf lead text))) := by
  have hskipped : (markOf lead text).length = if isMarked lead text then 3 else 0 := by
    unfold markOf
    split <;> rfl
  unfold tokenize readOf faultOf
  cases stopsAtMark lead text with
  | true =>
    -- nothing is read, and nothing can be wrong with that
    cases fault <;> rfl
  | false =>
    simp only [Bool.false_eq_true, if_false]
    rw [rowsOf, ← hskipped]
    generalize (Scanner.initial (markOf lead text).length).run delimiter []
      (text.drop (markOf lead text).length) = out
    cases fault with
    | some e => simp
    | none => cases out.1.finish? <;> simp

/-- The tokens of a text tell of the rows in which it is laid out. -/
theorem LaidOut.tells {fault : Option FlowError}
    (h : LaidOut delimiter fault.isSome lead text pieces) :
    (tokenize delimiter lead text fault).Tells (faultOf lead text fault) pieces := by
  have hrows := Layout.rows h (Scanner.rests_initial (markOf lead text).length) rfl
  rw [tokenize_eq_decodeRows]
  generalize rowsOf fault.isSome ((Scanner.initial (markOf lead text).length).run delimiter []
    (readOf lead text)) = raws at hrows ⊢
  rcases hrows with ⟨hfields, hlines⟩
  have hpiece : ∀ {k raw}, raws[k]? = some raw →
      ∃ p, pieces[k]? = some p ∧ p.fields = raw.fields ∧
        raw.position.line = lineBefore pieces k := by
    intro k raw hraw
    have hfield := congrArg (·[k]?) hfields
    have hline := congrArg (·[k]?) hlines
    simp only [List.getElem?_map, hraw, Option.map_some, getElem?_startsFrom] at hfield hline
    rcases Option.map_eq_some_iff.1 hfield.symm with ⟨p, hp, hsame⟩
    rw [hp, Option.map_some, Option.some_inj] at hline
    exact ⟨p, hp, hsame, hline⟩
  refine ⟨?_, ?_⟩
  · intro k row hrow
    rcases exists_raw_of_getElem?_decodeRows hrow with ⟨raw, hraw, hdecodes, hline⟩
    rcases hpiece hraw with ⟨p, hp, hsame, hbefore⟩
    exact ⟨p, hp, hsame ▸ hdecodes, hline.trans hbefore⟩
  · have hlength : raws.length = pieces.length := by simpa using congrArg List.length hfields
    rcases decodeRows_cases (faultOf lead text fault) raws with
      ⟨hall, hown⟩ | ⟨raw, field, good, hraw, hbad, hfault⟩
    · exact .inl ⟨hall.trans hlength, hown⟩
    · rcases hpiece hraw with ⟨p, hp, hsame, _⟩
      exact .inr ⟨p, field, good, raw.position, hp, hsame ▸ hbad, hfault⟩

end Csv
end RecordFlow
