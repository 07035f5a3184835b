import RecordFlow.Proofs.Csv.Layout
import RecordFlow.Proofs.Source.Transparency
import RecordFlow.Proofs.Source.Verdicts

/-!
# Positions — the lines that a source tells of its rows

The line of a row is one more than the line feeds before its first byte.  A source tells other lines
where there is more than one line feed between two rows, or where one of them is in a row:

* a record is told to be on the line that the row before it ended on, so that the line ends between
  the two are left out (`ToldAt`),
* an error for a row that is no text is told to be one line behind what was told of the row before
  it, however many lines there are (`GuessedAt`).

`rows_are_told_lines` says this of all that sources give at any time, with the cases in which the
line is right.
-/

namespace RecordFlow
namespace Source

/-- How many rows of a text are above the records. -/
def Options.rowsAbove (options : Options) : Nat := if options.hasHeader then 1 else 0

/-! ## Lines told -/

/-- What is told of a row that was read: the line behind the row before it.  That is the line of the
row just if there is no line feed between them. -/
structure ToldAt (mark : List UInt8) (pieces : List Csv.Piece) (k : Nat) (p : Csv.Piece)
    (line : Nat) : Prop where
  told : line = Csv.lineBefore pieces k
  right : line = Csv.lineOf mark pieces k ↔ Csv.lineFeeds p.gap = 0

/-- The line that is guessed for the row at a place: one behind that of the row before it. -/
def guessedLine (pieces : List Csv.Piece) : Nat → Nat
  | 0 => 1
  | k + 1 => Csv.lineBefore pieces k + 1

/-- What is told of a row that is no text.  It is right for the first row if no line feed is before
it, and for any other if there is one between the end of the last row but one and the row. -/
structure GuessedAt (mark : List UInt8) (pieces : List Csv.Piece) (k : Nat) (p : Csv.Piece)
    (line : Nat) : Prop where
  told : line = guessedLine pieces k
  right : line = Csv.lineOf mark pieces k ↔
    (k = 0 ∧ Csv.lineFeeds p.gap = 0) ∨
      ∃ j q, k = j + 1 ∧ pieces[j]? = some q ∧ Csv.lineFeeds (q.bytes ++ p.gap) = 1

/-- Whether a line is told of the first row that is no text. -/
def TellsUnreadable (text mark : List UInt8) (pieces : List Csv.Piece) (line : Nat) : Prop :=
  ∃ k p, Csv.StandsAt text mark pieces k p ∧ ¬ p.IsText ∧ (∀ q ∈ pieces.take k, q.IsText) ∧
    GuessedAt mark pieces k p line

/-- What a source tells of the rows of its text. -/
structure TellsLines (options : Options) (name : String) (text mark : List UInt8)
    (pieces : List Csv.Piece) (emitted : List Emission) : Prop where
  /-- The records, passed on or rejected, are the rows behind the header, one after the other. -/
  record : ∀ j r, (emitted.filterMap Emission.about?)[j]? = some r →
    ∃ p, Csv.StandsAt text mark pieces (options.rowsAbove + j) p ∧
      Csv.decodeFields 0 p.fields = .ok r.fields ∧
      ToldAt mark pieces (options.rowsAbove + j) p r.line
  /-- A strict source ends with an error for a row that is malformed. -/
  refused : ∀ line message,
    .failure (.context "read_record" name line (.invalidRecord message)) ∈ emitted →
    ∃ k p, Csv.StandsAt text mark pieces k p ∧ ToldAt mark pieces k p line
  /-- Any source ends with an error for the first row that is no text. -/
  unreadable : ∀ op line message, op = "read_header" ∨ op = "read_record" →
    .failure (.context op name line (.invalidCsv message)) ∈ emitted →
    TellsUnreadable text mark pieces line

/-- What a source tells of that goes through all of its rows. -/
structure TellsEvery (options : Options) (name : String) (pieces : List Csv.Piece)
    (emitted : List Emission) : Prop where
  record : ∀ j, options.rowsAbove + j < pieces.length →
    (∀ q ∈ pieces.take (options.rowsAbove + j + 1), q.IsText) →
    ∃ r, (emitted.filterMap Emission.about?)[j]? = some r
  unreadable : ∀ k p, pieces[k]? = some p → ¬ p.IsText → (∀ q ∈ pieces.take k, q.IsText) →
    ∃ line message,
      .failure (.context "read_record" name line (.invalidCsv message)) ∈ emitted

/-- Whether all that a source gives is an error for its header. -/
def FailsAtHeader (name : String) (emitted : List Emission) : Prop :=
  ∃ op line cause, (op = "read_header" ∨ op = "validate_header") ∧
    emitted = [.failure (.context op name line cause)]

variable {options : Options} {name : String} {text mark : List UInt8} {pieces : List Csv.Piece}
  {k line : Nat} {p : Csv.Piece} {tokens : Csv.Tokens} {fault : Option FlowError}
  {header : Option (List String)} {rows : List Csv.Row}

theorem toldAt (hmark : Csv.lineFeeds mark = 0) (hp : Csv.StandsAt text mark pieces k p)
    (hline : line = Csv.lineBefore pieces k) : ToldAt mark pieces k p line := by
  have hline' := hp.lineOf_eq hmark
  exact ⟨hline, by omega⟩

theorem guessedAt (hmark : Csv.lineFeeds mark = 0) (hp : Csv.StandsAt text mark pieces k p)
    (hline : line = guessedLine pieces k) : GuessedAt mark pieces k p line := by
  refine ⟨hline, ?_⟩
  rw [hline, hp.lineOf_eq hmark]
  cases k with
  | zero => simp [guessedLine, Csv.lineBefore_zero, eq_comm]
  | succ j =>
    have hj : j < pieces.length :=
      Nat.lt_of_succ_lt (List.getElem?_eq_some_iff.1 hp.piece).1
    have hq := List.getElem?_eq_getElem hj
    rw [guessedLine, Csv.lineBefore_succ hq]
    constructor
    · intro hsame
      refine .inr ⟨j, _, rfl, hq, ?_⟩
      rw [Csv.lineFeeds_append]
      omega
    · rintro (⟨hzero, _⟩ | ⟨j', q, hsucc, hq', hone⟩)
      · cases hzero
      · cases hsucc
        rw [hq] at hq'
        cases hq'
        rw [Csv.lineFeeds_append] at hone
        omega

/-! ## The rows behind a header -/

theorem Behind.line_eq (h : Behind options tokens header rows) :
    (if header.isSome then 1 else 0) = options.rowsAbove := by
  cases h with
  | header hheader _ _ => simp [Options.rowsAbove, hheader]
  | headerless hheader => simp [Options.rowsAbove, hheader]

theorem Behind.getElem?_eq (h : Behind options tokens header rows) (j : Nat) :
    tokens.rows[options.rowsAbove + j]? = rows[j]? := by
  cases h with
  | header hheader hrows _ => simp [Options.rowsAbove, hheader, hrows, Nat.add_comm 1]
  | headerless hheader => simp [Options.rowsAbove, hheader]

theorem Behind.length_eq (h : Behind options tokens header rows) :
    tokens.rows.length = options.rowsAbove + rows.length := by
  cases h with
  | header hheader hrows _ => simp [Options.rowsAbove, hheader, hrows, Nat.add_comm 1]
  | headerless hheader => simp [Options.rowsAbove, hheader]

/-- A fault is told to be one line behind the last row: that is what is guessed for the next. -/
theorem Behind.guessedLine_eq (h : Behind options tokens header rows)
    (htells : tokens.Tells fault pieces) :
    (rows.getLast?.map Csv.Row.line).getD (if header.isSome then 1 else 0) + 1 =
      guessedLine pieces tokens.rows.length := by
  rw [h.length_eq, h.line_eq]
  rcases rows.eq_nil_or_concat with rfl | ⟨init, last, rfl⟩
  · cases hheader : options.hasHeader <;>
      simp [Options.rowsAbove, hheader, guessedLine, Csv.lineBefore_zero]
  · have hlast : tokens.rows[options.rowsAbove + init.length]? = some last := by
      rw [h.getElem?_eq]
      simp
    rcases htells.rows _ _ hlast with ⟨_, _, _, hline⟩
    simp [guessedLine, hline, ← Nat.add_assoc]

/-! ## One source -/

theorem Opened.context_of_mismatch? {o : Opened} {expected : Option (List String)}
    {error : FlowError} (h : o.mismatch? expected = some error) :
    ∃ e, error = .context "validate_header" o.name 0 e := by
  unfold Opened.mismatch? at h
  split at h
  · split at h
    · cases h
    · cases h
      exact ⟨_, rfl⟩
  · cases h

/-- What a source gives: an error for its header, or what its rows say. -/
theorem emissions_ofTokens_cases (options : Options) (expected : Option (List String))
    (name : String) (tokens : Csv.Tokens) :
    (emissions options expected (Opened.ofTokens options name tokens) =
      [.failure (.context "read_header" name 0 .emptyFile)]) ∨
    (∃ fault, tokens = ⟨[], some fault⟩ ∧
      emissions options expected (Opened.ofTokens options name tokens) =
        [.failure (.context "read_header" name 1 fault)]) ∨
    (∃ line e, emissions options expected (Opened.ofTokens options name tokens) =
        [.failure (.context "validate_header" name line e)]) ∨
    ∃ header rows seen rest ending, Behind options tokens header rows ∧
      Opened.Reads options ⟨name, header, rows, tokens.fault⟩ (if header.isSome then 1 else 0)
        seen rest ending (emissions options expected (Opened.ofTokens options name tokens)) := by
  have hread : ∀ header rows, Behind options tokens header rows →
      (∃ line e, emissions options expected (Opened.ofTokens options name tokens) =
        [.failure (.context "validate_header" name line e)]) ∨
      ∃ header rows seen rest ending, Behind options tokens header rows ∧
        Opened.Reads options ⟨name, header, rows, tokens.fault⟩ (if header.isSome then 1 else 0)
          seen rest ending (emissions options expected (Opened.ofTokens options name tokens)) := by
    intro header rows hbehind
    rw [hbehind.ofTokens_eq name]
    cases hmismatch : Opened.mismatch? expected ⟨name, header, rows, tokens.fault⟩ with
    | none =>
      rw [emissions_of_agreeing hmismatch]
      rcases Opened.exists_reads options ⟨name, header, rows, tokens.fault⟩
        (if header.isSome then 1 else 0) with ⟨seen, rest, ending, hreads⟩
      exact .inr ⟨header, rows, seen, rest, ending, hbehind, hreads⟩
    | some error =>
      rw [emissions_of_mismatch? hmismatch]
      rcases Opened.context_of_mismatch? hmismatch with ⟨e, rfl⟩
      exact .inl ⟨0, e, rfl⟩
  cases hheader : options.hasHeader with
  | false => exact .inr (.inr (hread none tokens.rows (.headerless hheader)))
  | true =>
    cases hrows : tokens.rows with
    | nil =>
      cases hfault : tokens.fault with
      | none => exact .inl (by simp [Opened.ofTokens, hheader, hrows, hfault, emissions])
      | some fault =>
        refine .inr (.inl ⟨fault, ?_, ?_⟩)
        · rw [← hrows, ← hfault]
        · simp [Opened.ofTokens, hheader, hrows, hfault, emissions]
    | cons first rows =>
      cases hnames : Header.validate first.fields with
      | ok _ => exact .inr (.inr (hread _ _ (.header hheader hrows hnames)))
      | error e =>
        exact .inr (.inr (.inl ⟨first.line, e,
          by simp [Opened.ofTokens, hheader, hrows, hnames, emissions]⟩))

/-- The error of a malformed record says that it is one. -/
theorem exists_invalidRecord {r : Record} {e : FlowError} (h : r.validate = .error e) :
    ∃ message, e = .invalidRecord message := by
  unfold Record.validate at h
  split at h
  · cases h
    exact ⟨_, rfl⟩
  · simp only at h
    split at h
    · cases h
      exact ⟨_, rfl⟩
    · cases h

/-- Whether the fault of a text is one of its decoding. -/
def FromDecoder (fault : Option FlowError) : Prop :=
  ∀ e, fault = some e → ∃ message, e = .io message

theorem fromDecoder_of_ofPath {demand : Compression.Demand} {files : Files} {path : Path}
    {input : Input} (h : Input.ofPath demand files path = .ok input) : FromDecoder input.fault := by
  unfold Input.ofPath at h
  split at h
  · cases h
  · split at h
    · cases h
    · cases h
    · cases h
      intro e he
      unfold Input.ofBytes at he
      simp only at he
      split at he
      · cases he
      · rcases Option.map_eq_some_iff.1 he with ⟨message, _, rfl⟩
        exact ⟨message, rfl⟩
      · rcases Option.map_eq_some_iff.1 he with ⟨message, _, rfl⟩
        exact ⟨message, rfl⟩

theorem FromDecoder.faultOf (h : FromDecoder fault) (lead : Nat) (text : List UInt8) :
    FromDecoder (Csv.faultOf lead text fault) := by
  unfold Csv.faultOf
  split
  · exact fun e he => by cases he
  · exact h

/-- The fault behind the rows of a text is one of its decoding, or says that the next row is no
text. -/
theorem fault_cases (htells : tokens.Tells fault pieces) (hfault : FromDecoder fault)
    {e : FlowError} (he : tokens.fault = some e) :
    (∃ message, e = .io message) ∨ ∃ message, e = .invalidCsv message ∧
      ∃ p, pieces[tokens.rows.length]? = some p ∧ ¬ p.IsText := by
  rcases htells.ending with ⟨_, hown⟩ | ⟨p, field, good, position, hp, hbad, hfault'⟩
  · exact .inl (hfault e (hown.symm.trans he))
  · rw [hfault', Option.some_inj] at he
    exact .inr ⟨_, he.symm, p, hp, Csv.Piece.not_isText hbad⟩

variable {broken : Bool} {lead : Nat} {emitted : List Emission}

/-- A row behind the header stands in the text, and has been told of. -/
theorem exists_toldAt {j : Nat} {row : Csv.Row}
    (hlaid : Csv.LaidOut options.delimiter broken lead text pieces)
    (htells : tokens.Tells fault pieces) (hbehind : Behind options tokens header rows)
    (hj : rows[j]? = some row) :
    ∃ p, Csv.StandsAt text (Csv.markOf lead text) pieces (options.rowsAbove + j) p ∧
      Csv.decodeFields 0 p.fields = .ok row.fields ∧
      ToldAt (Csv.markOf lead text) pieces (options.rowsAbove + j) p row.line := by
  rcases htells.rows _ row ((hbehind.getElem?_eq j).trans hj) with ⟨p, hp, hdecodes, hline⟩
  have hstands := hlaid.standsAt hp
  exact ⟨p, hstands, hdecodes, toldAt (Csv.lineFeeds_markOf lead text) hstands hline⟩

/-- A source that goes from row to row tells of the rows of its text. -/
theorem tellsLines_of_reads {seen rest : List Csv.Row} {ending : Option FlowError}
    (hlaid : Csv.LaidOut options.delimiter broken lead text pieces)
    (htells : tokens.Tells fault pieces) (hfault : FromDecoder fault)
    (hbehind : Behind options tokens header rows)
    (hreads : Opened.Reads options ⟨name, header, rows, tokens.fault⟩
      (if header.isSome then 1 else 0) seen rest ending emitted) :
    TellsLines options name text (Csv.markOf lead text) pieces emitted := by
  refine ⟨?_, ?_, ?_⟩
  · intro j r hr
    rw [hreads.records, List.getElem?_map] at hr
    rcases Option.map_eq_some_iff.1 hr with ⟨row, hseen, rfl⟩
    have hj : rows[j]? = some row := by
      have hrows : rows = seen ++ rest := hreads.rows
      rw [hrows, List.getElem?_append_left (List.getElem?_eq_some_iff.1 hseen).1]
      exact hseen
    exact exists_toldAt hlaid htells hbehind hj
  · intro line message he
    have hending := hreads.ending_eq_of_mem he
    cases hreads.stops with
    | behind =>
      -- no fault behind the rows is one for a malformed record
      rcases Option.map_eq_some_iff.1 hending with ⟨e, hown, hsame⟩
      cases hsame
      rcases fault_cases htells hfault hown with ⟨_, hio⟩ | ⟨_, hcsv, _⟩
      · cases hio
      · cases hcsv
    | @refusal row rest e _ _ =>
      cases hending
      have hj : rows[seen.length]? = some row := by
        have hrows : rows = seen ++ row :: rest := hreads.rows
        simp [hrows]
      rcases exists_toldAt hlaid htells hbehind hj with ⟨p, hp, _, htold⟩
      exact ⟨_, p, hp, htold⟩
  · intro op line message _ he
    have hending := hreads.ending_eq_of_mem he
    cases hreads.stops with
    | behind =>
      rcases Option.map_eq_some_iff.1 hending with ⟨e, hown, hsame⟩
      cases hsame
      rcases fault_cases htells hfault hown with ⟨_, hio⟩ | ⟨_, _, p, hp, hbad⟩
      · cases hio
      · have hseen : rows = seen := hreads.rows.trans (List.append_nil seen)
        have hguess := hbehind.guessedLine_eq htells
        rw [hseen] at hguess
        have hstands := hlaid.standsAt hp
        exact ⟨_, p, hstands, hbad, fun q => htells.isText_of_mem_take,
          guessedAt (Csv.lineFeeds_markOf lead text) hstands hguess⟩
    | refusal _ hmalformed =>
      -- a record that is malformed has been read as text
      cases hending
      rcases exists_invalidRecord hmalformed with ⟨_, hinvalid⟩
      cases hinvalid

/-- A lenient source that goes from row to row tells of every row, up to the first that is no
text. -/
theorem tellsEvery_of_reads {seen rest : List Csv.Row} {ending : Option FlowError}
    (hstrict : options.strict = false) (htells : tokens.Tells fault pieces)
    (hbehind : Behind options tokens header rows)
    (hreads : Opened.Reads options ⟨name, header, rows, tokens.fault⟩
      (if header.isSome then 1 else 0) seen rest ending emitted) :
    TellsEvery options name pieces emitted := by
  cases hreads.stops with
  | refusal hrefuses => cases hstrict.symm.trans hrefuses
  | behind =>
    have hseen : rows = seen := hreads.rows.trans (List.append_nil seen)
    refine ⟨?_, ?_⟩
    · intro j hj htext
      have hread := htells.le_length (by omega) htext
      rw [hbehind.length_eq, hseen] at hread
      have hlt : j < (emitted.filterMap Emission.about?).length := by
        rw [hreads.records, List.length_map]
        omega
      exact ⟨_, List.getElem?_eq_getElem hlt⟩
    · intro k p hp hbad htext
      rcases (htells.exists_fault hp hbad htext).2 with ⟨message, hfault⟩
      let line := (seen.getLast?.map Csv.Row.line).getD (if header.isSome then 1 else 0)
      refine ⟨line + 1, message, ?_⟩
      rw [hreads.verdicts, Opened.faultBehind?, hfault]
      exact List.mem_append_right _ (List.mem_singleton.2 rfl)

/-- An error for the header tells of its line if it could not be read. -/
theorem tellsLines_failure {op : String} {cause : FlowError} (hop : op ≠ "read_record")
    (hunreadable : op = "read_header" → ∀ message, cause = .invalidCsv message →
      TellsUnreadable text mark pieces line) :
    TellsLines options name text mark pieces [.failure (.context op name line cause)] := by
  refine ⟨?_, ?_, ?_⟩
  · intro j r hr
    cases hr
  · intro line' message he
    cases List.mem_singleton.1 he
    exact absurd rfl hop
  · intro op' line' message hop' he
    cases List.mem_singleton.1 he
    exact hunreadable (hop'.resolve_right hop) message rfl

/-- Whatever header it is compared with, a source tells of the rows of its text. -/
theorem tellsLines_emissions (name : String) (expected : Option (List String))
    (hlaid : Csv.LaidOut options.delimiter broken lead text pieces)
    (htells : tokens.Tells fault pieces) (hfault : FromDecoder fault) :
    TellsLines options name text (Csv.markOf lead text) pieces
      (emissions options expected (Opened.ofTokens options name tokens)) := by
  rcases emissions_ofTokens_cases options expected name tokens with
    hempty | ⟨own, rfl, hunreadable⟩ | ⟨line, e, hnames⟩ |
    ⟨header, rows, seen, rest, ending, hbehind, hreads⟩
  · rw [hempty]
    exact tellsLines_failure (by decide) fun _ _ hcause => by cases hcause
  · rw [hunreadable]
    refine tellsLines_failure (by decide) ?_
    rintro _ message rfl
    rcases fault_cases htells hfault rfl with ⟨_, hio⟩ | ⟨_, _, p, hp, hbad⟩
    · cases hio
    · have hstands := hlaid.standsAt hp
      exact ⟨0, p, hstands, hbad, by simp,
        guessedAt (Csv.lineFeeds_markOf lead text) hstands rfl⟩
  · rw [hnames]
    exact tellsLines_failure (by decide) fun hop => absurd hop (by decide)
  · exact tellsLines_of_reads hlaid htells hfault hbehind hreads

theorem tellsEvery_emissions (name : String) (expected : Option (List String))
    (hstrict : options.strict = false) (htells : tokens.Tells fault pieces) :
    FailsAtHeader name
        (emissions options expected (Opened.ofTokens options name tokens)) ∨
      TellsEvery options name pieces
        (emissions options expected (Opened.ofTokens options name tokens)) := by
  rcases emissions_ofTokens_cases options expected name tokens with
    hempty | ⟨own, _, hunreadable⟩ | ⟨line, e, hnames⟩ |
    ⟨header, rows, seen, rest, ending, hbehind, hreads⟩
  · exact .inl ⟨_, _, _, .inl rfl, hempty⟩
  · exact .inl ⟨_, _, _, .inl rfl, hunreadable⟩
  · exact .inl ⟨_, _, _, .inr rfl, hnames⟩
  · exact .inr (tellsEvery_of_reads hstrict htells hbehind hreads)

theorem TellsLines.of_prefix {whole : List Emission}
    (h : TellsLines options name text mark pieces whole) (hfront : emitted <+: whole) :
    TellsLines options name text mark pieces emitted := by
  refine ⟨?_, ?_, ?_⟩
  · intro j r hr
    rcases hfront with ⟨rest, rfl⟩
    refine h.record j r ?_
    rw [List.filterMap_append, List.getElem?_append_left (List.getElem?_eq_some_iff.1 hr).1]
    exact hr
  · exact fun line message he => h.refused line message (hfront.subset he)
  · exact fun op line message hop he => h.unreadable op line message hop (hfront.subset he)

/-! ## Sources in a session -/

/-- Every text can be laid out in rows, and whichever way it is:

* in any session and at any time, a source has told the lines of its rows as `TellsLines` says: each
  record is one of the rows behind the header, on the line that the row before it ended on, and the
  first row that is no text is one line behind what was told of the row before it,
* a lenient source that has been read to its end has told of all of these rows, unless it has ended
  with an error for its header. -/
theorem rows_are_told_lines {options : Options} {files : Files} {paths : List Path} {i : Nat}
    {path : Path} {name : String} {input : Input} (hpath : paths[i]? = some path)
    (hname : (names paths)[i]? = some name)
    (hinput : Input.ofPath .portions files path = .ok input) :
    (∃ pieces, Csv.LaidOut options.delimiter input.fault.isSome input.lead input.bytes pieces) ∧
      (∃ s : Session, s.Completes options (openAll options files paths)) ∧
      ∀ pieces, Csv.LaidOut options.delimiter input.fault.isSome input.lead input.bytes pieces →
        (∀ s, Session.Reaches (.ofSources options (openAll options files paths)) s →
          TellsLines options name input.bytes (Csv.markOf input.lead input.bytes) pieces
            (s.emittedBy i)) ∧
        (options.strict = false → ∀ s : Session,
          s.Completes options (openAll options files paths) →
          FailsAtHeader name (s.emittedBy i) ∨
            TellsEvery options name pieces (s.emittedBy i)) := by
  have hi := getElem?_openAll options files hpath hname
  have hsource : Opened.ofPath options files name path = Opened.ofTokens options name
      (Csv.tokenize options.delimiter input.lead input.bytes input.fault) := by
    rw [Opened.ofPath, hinput]
  rw [hsource] at hi
  refine ⟨Csv.exists_laidOut _ _ _ _, Session.exists_completes options _, ?_⟩
  intro pieces hlaid
  constructor
  · intro s hs
    rcases Session.emittedBy_prefix hs hi with ⟨expected, hfront⟩
    have hwhole := tellsLines_emissions name expected hlaid hlaid.tells
      ((fromDecoder_of_ofPath hinput).faultOf input.lead input.bytes)
    exact hwhole.of_prefix hfront
  · intro hstrict s hs
    rw [hs.emittedBy_eq hi]
    exact tellsEvery_emissions name _ hstrict hlaid.tells

/-! ## Lines that are not right -/

/-- A header, a row of two lines, and a row that is no text. -/
def spanningText : List UInt8 := [105, 100, 10, 34, 97, 10, 98, 34, 10, 255, 10]

def spanningPieces : List Csv.Piece :=
  [⟨[], [105, 100, 10], [[105, 100]]⟩, ⟨[], [34, 97, 10, 98, 34, 10], [[97, 10, 98]]⟩,
   ⟨[], [255, 10], [[255]]⟩]

theorem laidOut_spanningText : Csv.LaidOut 44 false 4 spanningText spanningPieces := by
  have hheader : Csv.Finished 44 [105, 100, 10] [[105, 100]] :=
    ⟨⟨[105, 100], 10, rfl, ⟨105, [100], rfl, rfl⟩, rfl⟩, rfl⟩
  have hspanning : Csv.Finished 44 [34, 97, 10, 98, 34, 10] [[97, 10, 98]] :=
    ⟨⟨[34, 97, 10, 98, 34], 10, rfl, ⟨34, [97, 10, 98, 34], rfl, rfl⟩, rfl⟩, rfl⟩
  have hunreadable : Csv.Finished 44 [255, 10] [[255]] :=
    ⟨⟨[255], 10, rfl, ⟨255, [], rfl, rfl⟩, rfl⟩, rfl⟩
  have hnone : ∀ b ∈ ([] : List UInt8), Csv.isTerminator b = true := by simp
  have hlast : Csv.Layout 44 false [255, 10] [⟨[], [255, 10], [[255]]⟩] :=
    .row (p := ⟨[], [255, 10], [[255]]⟩) hnone hunreadable (.blank hnone)
  have hrows : Csv.Layout 44 false [34, 97, 10, 98, 34, 10, 255, 10] spanningPieces.tail :=
    .row (p := ⟨[], [34, 97, 10, 98, 34, 10], [[97, 10, 98]]⟩) hnone hspanning hlast
  exact .row (p := ⟨[], [105, 100, 10], [[105, 100]]⟩) hnone hheader hrows

/-- The row of two lines is told to be on the line where it is, and the row behind it, which is on
line 4, to be on line 3. -/
theorem spanningText_is_told_lines :
    ∃ s : Session, s.Completes .standard (openAll .standard (oneFile spanningText) [⟨"a"⟩]) ∧
      TellsLines .standard "a" spanningText [] spanningPieces (s.emittedBy 0) ∧
      (∃ message, s.emittedBy 0 =
        [.record ⟨2, "a", ["a\nb"], some ["id"]⟩,
         .failure (.context "read_record" "a" 3 (.invalidCsv message))]) ∧
      Csv.lineOf [] spanningPieces 1 = 2 ∧ Csv.lineOf [] spanningPieces 2 = 4 := by
  rcases Session.exists_completes .standard
    (openAll .standard (oneFile spanningText) [⟨"a"⟩]) with ⟨s, hs⟩
  have htold := (@rows_are_told_lines .standard (oneFile spanningText) [⟨"a"⟩] 0 ⟨"a"⟩ "a"
    ⟨.plain, spanningText, 4, none⟩ rfl (by decide +kernel) (by rfl)).2.2
  have hemitted : some (s.emittedBy 0) = some
      [.record ⟨2, "a", ["a\nb"], some ["id"]⟩,
       .failure (.context "read_record" "a" 3 (.invalidCsv
        ("CSV parse error: record 2 (line 4, field: 0, byte: 9): invalid utf-8: " ++
          "invalid UTF-8 in field 0 near byte index 0")))] :=
    (hs.emittedBy_eq_readAll (by decide)).symm.trans (by decide +kernel)
  exact ⟨s, hs, (htold _ laidOut_spanningText).1 s hs.reaches, ⟨_, Option.some_inj.1 hemitted⟩, rfl,
    rfl⟩

/-- Two rows that end with a carriage return and a line feed. -/
def returningText : List UInt8 := [105, 13, 10, 49, 13, 10]

def returningPieces : List Csv.Piece :=
  [⟨[], [105, 13], [[105]]⟩, ⟨[10], [49, 13], [[49]]⟩]

theorem laidOut_returningText : Csv.LaidOut 44 false 4 returningText returningPieces := by
  have hheader : Csv.Finished 44 [105, 13] [[105]] :=
    ⟨⟨[105], 13, rfl, ⟨105, [], rfl, rfl⟩, rfl⟩, rfl⟩
  have hrow : Csv.Finished 44 [49, 13] [[49]] :=
    ⟨⟨[49], 13, rfl, ⟨49, [], rfl, rfl⟩, rfl⟩, rfl⟩
  have hnone : ∀ b ∈ ([] : List UInt8), Csv.isTerminator b = true := by simp
  have hfeed : ∀ b ∈ ([10] : List UInt8), Csv.isTerminator b = true :=
    List.forall_mem_singleton.2 rfl
  have hrows : Csv.Layout 44 false [10, 49, 13, 10] returningPieces.tail :=
    .row (p := ⟨[10], [49, 13], [[49]]⟩) hfeed hrow (.blank hfeed)
  exact .row (p := ⟨[], [105, 13], [[105]]⟩) hnone hheader hrows

/-- The row on line 2 is told to be on line 1, which is the line of the header. -/
theorem line_behind_carriage_return_is_wrong :
    ¬ ∀ (options : Options) (files : Files) (path : Path) (input : Input) (pieces : List Csv.Piece),
      Input.ofPath .portions files path = .ok input →
      Csv.LaidOut options.delimiter input.fault.isSome input.lead input.bytes pieces →
      ∀ s : Session, s.Completes options (openAll options files [path]) →
        ∀ j r, ((s.emittedBy 0).filterMap Emission.about?)[j]? = some r →
          r.line = Csv.lineOf (Csv.markOf input.lead input.bytes) pieces
            (options.rowsAbove + j) := by
  intro hright
  rcases Session.exists_completes .standard
    (openAll .standard (oneFile returningText) [⟨"a"⟩]) with ⟨s, hs⟩
  have hemitted : some (s.emittedBy 0) = some [.record ⟨1, "a", ["1"], some ["i"]⟩] :=
    (hs.emittedBy_eq_readAll (by decide)).symm.trans (by decide +kernel)
  have hline := hright .standard (oneFile returningText) ⟨"a"⟩ ⟨.plain, returningText, 4, none⟩
    returningPieces (by rfl) laidOut_returningText s hs 0 ⟨1, "a", ["1"], some ["i"]⟩
    (by rw [Option.some_inj.1 hemitted]; rfl)
  cases hline

end Source
end RecordFlow
