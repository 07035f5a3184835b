import RecordFlow.Proofs.Source.Origins
import RecordFlow.Proofs.Source.Progress
import RecordFlow.Proofs.Source.Rows

/-!
# Verdicts — a source read row by row

A source that nobody disturbs, and the header of which nobody objects to, gives what its rows say.
It goes from row to row, passes on the well-formed ones and rejects the others, and stops behind the
last row or, if it is strict, at the first malformed one (`Opened.Reads`).  All it looks at before
comes out once and in order, under the name of the source and with its header.

The rows and the fault behind them are any that there can be, whatever they have been read from.
-/

namespace RecordFlow
namespace Source

/-! ## Rows -/

/-- The header of a source and the rows behind it: the first row is the header if there has to be
one and it keeps the rules for names. -/
inductive Behind (options : Options) (tokens : Csv.Tokens) :
    Option (List String) → List Csv.Row → Prop where
  | header {first : Csv.Row} {rows : List Csv.Row} :
      options.hasHeader = true → tokens.rows = first :: rows →
      Header.validate first.fields = .ok () → Behind options tokens (some first.fields) rows
  | headerless : options.hasHeader = false → Behind options tokens none tokens.rows

theorem Behind.ofTokens_eq {options : Options} {tokens : Csv.Tokens} {header : Option (List String)}
    {rows : List Csv.Row} (h : Behind options tokens header rows) (name : String) :
    Opened.ofTokens options name tokens = .ok ⟨name, header, rows, tokens.fault⟩ := by
  cases h with
  | header hheader hrows hnames => simp [Opened.ofTokens, hheader, hrows, hnames]
  | headerless hheader => simp [Opened.ofTokens, hheader]

namespace Opened

/-- What a source leaves of its rows when it stops behind the rows `seen`, and the error that it
stops with.  `line` is the line that the rows follow. -/
inductive Stops (options : Options) (o : Opened) (line : Nat) (seen : List Csv.Row) :
    List Csv.Row → Option FlowError → Prop where
  /-- Nothing is left, and the fault behind the rows is the error. -/
  | behind : Stops options o line seen [] (o.faultBehind? line seen)
  /-- A strict source refuses a malformed row. -/
  | refusal {row : Csv.Row} {rest : List Csv.Row} {e : FlowError} :
      options.strict = true → (o.record row).validate = .error e →
      Stops options o line seen (row :: rest) (some (.context "read_record" o.name row.line e))

/-- What a source gives that goes through the rows `seen` and stops before the rows `rest`. -/
structure Reads (options : Options) (o : Opened) (line : Nat) (seen rest : List Csv.Row)
    (ending : Option FlowError) (emitted : List Emission) : Prop where
  rows : o.rows = seen ++ rest
  stops : Stops options o line seen rest ending
  /-- A strict source goes through well-formed rows only. -/
  strict : options.strict = true → ∀ row ∈ seen, (o.record row).validate = .ok ()
  /-- There is one verdict on each row, in order, and the error at the end. -/
  verdicts : emitted =
    (seen.map fun row => o.verdict (o.record row)) ++ (ending.map .failure).toList
  /-- The records carry the rows as they are, with the name and the header of the source. -/
  records : emitted.filterMap Emission.about? =
    seen.map fun row => ⟨row.line, o.name, row.fields, o.header⟩
  passed : emitted.filterMap Emission.record? = (seen.map o.record).filter Record.isValid
  rejected : emitted.filterMap Emission.rejection? =
    (seen.map o.record).filterMap o.rejection? ++ (ending.map (⟨·, none⟩)).toList

variable (options : Options) (o : Opened)

theorem about?_verdict (r : Record) : (o.verdict r).about? = some r := by
  unfold verdict
  cases o.malformed? r <;> rfl

theorem filterMap_about?_verdicts (seen : List Csv.Row) (ending : Option FlowError) :
    ((seen.map fun row => o.verdict (o.record row)) ++
      (ending.map Emission.failure).toList).filterMap Emission.about? = seen.map o.record := by
  rw [List.filterMap_append, List.filterMap_map]
  have hrecords : (Emission.about? ∘ fun row => o.verdict (o.record row)) =
      fun row => some (o.record row) := funext fun row => o.about?_verdict (o.record row)
  have hending : (ending.map Emission.failure).toList.filterMap Emission.about? = [] := by
    cases ending <;> rfl
  rw [hrecords, hending, List.append_nil, List.filterMap_eq_map']

variable {options o}

theorem Stops.cons {line : Nat} {row : Csv.Row} {seen rest : List Csv.Row}
    {ending : Option FlowError} (h : Stops options o row.line seen rest ending) :
    Stops options o line (row :: seen) rest ending := by
  cases h with
  | behind => exact o.faultBehind?_cons line row seen ▸ .behind
  | refusal hstrict hvalidate => exact .refusal hstrict hvalidate

theorem Reads.ending_eq_of_mem {line : Nat} {seen rest : List Csv.Row} {ending : Option FlowError}
    {emitted : List Emission} {e : FlowError}
    (h : Reads options o line seen rest ending emitted) (he : .failure e ∈ emitted) :
    ending = some e := by
  rw [h.verdicts] at he
  rcases List.mem_append.1 he with he | he
  · rcases List.mem_map.1 he with ⟨row, _, hverdict⟩
    unfold verdict at hverdict
    split at hverdict <;> cases hverdict
  · rcases Option.map_eq_some_iff.1 (Option.mem_toList.1 he) with ⟨e', hending, hsame⟩
    cases hsame
    exact hending

variable (options o)

theorem exists_stops_of_strict (hstrict : options.strict = true) (line : Nat)
    (rows : List Csv.Row) :
    ∃ seen rest, rows = seen ++ rest ∧
      Stops options o line seen rest (o.endingFrom? options line rows) ∧
      (∀ row ∈ seen, (o.record row).validate = .ok ()) ∧
      considered options (rows.map o.record) = seen.map o.record := by
  induction rows generalizing line with
  | nil =>
    have hending : o.endingFrom? options line [] = o.faultBehind? line [] := by
      simp [endingFrom?]
    exact ⟨[], [], rfl, hending ▸ .behind, by simp, by simp [considered]⟩
  | cons row rows ih =>
    cases hvalidate : (o.record row).validate with
    | ok _ =>
      rcases o.rows_of_validate_ok options hvalidate line rows with ⟨_, hconsidered, hending⟩
      rcases ih row.line with ⟨seen, rest, rfl, hstops, hvalid, hrest⟩
      refine ⟨row :: seen, rest, rfl, hending ▸ hstops.cons, ?_, ?_⟩
      · intro row' hrow'
        rcases List.mem_cons.1 hrow' with rfl | hrow'
        · exact hvalidate
        · exact hvalid row' hrow'
      · rw [hconsidered, hrest, List.map_cons]
    | error e =>
      have hending : o.endingFrom? options line (row :: rows) =
          some (.context "read_record" o.name row.line e) := by
        simp [endingFrom?, hstrict, o.malformed?_of_validate_error hvalidate]
      refine ⟨[], row :: rows, rfl, hending ▸ .refusal hstrict hvalidate, by simp, ?_⟩
      simp [considered, hstrict, Record.isValid, hvalidate]

/-- The rows of a source part into those that it goes through and those that it leaves. -/
theorem exists_reads (line : Nat) :
    ∃ seen rest ending, Reads options o line seen rest ending (o.bodyFrom options line o.rows) := by
  have hsplit : ∃ seen rest, o.rows = seen ++ rest ∧
      Stops options o line seen rest (o.endingFrom? options line o.rows) ∧
      (options.strict = true → ∀ row ∈ seen, (o.record row).validate = .ok ()) ∧
      considered options (o.rows.map o.record) = seen.map o.record := by
    cases hstrict : options.strict with
    | false =>
      have hending : o.endingFrom? options line o.rows = o.faultBehind? line o.rows := by
        simp [endingFrom?, hstrict]
      exact ⟨o.rows, [], by simp, hending ▸ .behind, by simp, by simp [considered, hstrict]⟩
    | true =>
      rcases o.exists_stops_of_strict options hstrict line o.rows with
        ⟨seen, rest, hrows, hstops, hvalid, hconsidered⟩
      exact ⟨seen, rest, hrows, hstops, fun _ => hvalid, hconsidered⟩
  rcases hsplit with ⟨seen, rest, hrows, hstops, hvalid, hconsidered⟩
  have hpassed := o.bodyFrom_rows options o.rows line
  rw [hconsidered] at hpassed
  have hverdicts := o.bodyFrom_eq_verdicts options o.rows line
  rw [hconsidered, List.map_map] at hverdicts
  refine ⟨seen, rest, _, hrows, hstops, hvalid, hverdicts, ?_, hpassed.1, hpassed.2⟩
  rw [hverdicts]
  exact o.filterMap_about?_verdicts seen _

end Opened

/-! ## A whole source -/

/-- What a source gives that is read to its end, by the rows that there are. -/
structure RowByRow (options : Options) (name : String) (tokens : Csv.Tokens)
    (emitted : List Emission) : Prop where
  /-- There is nothing to be the header. -/
  headless : options.hasHeader = true → tokens = ⟨[], none⟩ →
    emitted = [.failure (.context "read_header" name 0 .emptyFile)]
  /-- What is to be the header cannot be read. -/
  unreadable : ∀ fault, options.hasHeader = true → tokens = ⟨[], some fault⟩ →
    emitted = [.failure (.context "read_header" name 1 fault)]
  /-- The header breaks a rule for names. -/
  misnamed : ∀ first rows e, options.hasHeader = true → tokens.rows = first :: rows →
    Header.validate first.fields = .error e →
    emitted = [.failure (.context "validate_header" name first.line e)]
  read : ∀ header rows, Behind options tokens header rows →
    ∃ seen rest ending,
      Opened.Reads options ⟨name, header, rows, tokens.fault⟩ (if header.isSome then 1 else 0)
        seen rest ending emitted

theorem rowByRow_emissions {options : Options} {name : String} {tokens : Csv.Tokens}
    {expected : Option (List String)}
    (hagrees : ∀ o, Opened.ofTokens options name tokens = .ok o → o.mismatch? expected = none) :
    RowByRow options name tokens
      (emissions options expected (Opened.ofTokens options name tokens)) := by
  refine ⟨?_, ?_, ?_, ?_⟩
  · rintro hheader rfl
    simp [Opened.ofTokens, hheader, emissions]
  · rintro fault hheader rfl
    simp [Opened.ofTokens, hheader, emissions]
  · intro first rows e hheader hrows hnames
    simp [Opened.ofTokens, hheader, hrows, hnames, emissions]
  · intro header rows hbehind
    have hopened := hbehind.ofTokens_eq name
    rw [hopened, emissions_of_agreeing (hagrees _ hopened)]
    exact Opened.exists_reads options ⟨name, header, rows, tokens.fault⟩ _

/-- A source the header of which is not objected to can be read to its end among any others, and if
nothing disturbs the reading, it gives what its rows say, row by row. -/
theorem reads_row_by_row {options : Options} {sources : List (Except FlowError Opened)} {i : Nat}
    {name : String} {tokens : Csv.Tokens}
    (hi : sources[i]? = some (Opened.ofTokens options name tokens))
    (hagrees : ∀ o, Opened.ofTokens options name tokens = .ok o →
      o.mismatch? (firstShared? options (sources.take i)) = none) :
    (∃ s : Session, s.Completes options sources) ∧
      ∀ s : Session, s.Completes options sources →
        RowByRow options name tokens (s.emittedBy i) := by
  refine ⟨Session.exists_completes options sources, ?_⟩
  intro s hs
  rw [hs.emittedBy_eq hi]
  exact rowByRow_emissions hagrees

def mixedTokens : Csv.Tokens :=
  ⟨[⟨["id", "n"], 1⟩, ⟨["1", "x"], 2⟩, ⟨["2"], 3⟩, ⟨["3", "z"], 4⟩], some (.invalidCsv "cut off")⟩

/-- A source that is lenient rejects the short row and goes on to the fault, and one that is strict
ends at the row. -/
theorem reads_mixedTokens_row_by_row :
    (∃ s : Session, s.Completes .standard [Opened.ofTokens .standard "a" mixedTokens] ∧
      s.emittedBy 0 =
        [.record ⟨2, "a", ["1", "x"], some ["id", "n"]⟩,
         .rejected (.context "read_record" "a" 3
            (.invalidRecord "field count mismatch: expected 2 fields, got 1 (line 3 in a)"))
           ⟨3, "a", ["2"], some ["id", "n"]⟩,
         .record ⟨4, "a", ["3", "z"], some ["id", "n"]⟩,
         .failure (.context "read_record" "a" 5 (.invalidCsv "cut off"))]) ∧
    ∃ s : Session, s.Completes { Options.standard with strict := true }
        [Opened.ofTokens { Options.standard with strict := true } "a" mixedTokens] ∧
      (s.emittedBy 0).filterMap Emission.about? =
        [⟨2, "a", ["1", "x"], some ["id", "n"]⟩] := by
  have hagrees : ∀ (options : Options) (o : Opened),
      Opened.ofTokens options "a" mixedTokens = .ok o →
      o.mismatch? (firstShared? options
        (([Opened.ofTokens options "a" mixedTokens] : List _).take 0)) = none :=
    fun options o _ => o.mismatch?_none
  have hnames : Header.validate ["id", "n"] = .ok () := by rfl
  have hbehind : ∀ options : Options, options.hasHeader = true →
      Behind options mixedTokens (some ["id", "n"])
        [⟨["1", "x"], 2⟩, ⟨["2"], 3⟩, ⟨["3", "z"], 4⟩] :=
    fun options hheader => @Behind.header options mixedTokens ⟨["id", "n"], 1⟩ _ hheader rfl hnames
  constructor
  · rcases @reads_row_by_row .standard _ 0 "a" mixedTokens rfl (hagrees _) with
      ⟨⟨s, hs⟩, hreads⟩
    refine ⟨s, hs, ?_⟩
    rcases (hreads s hs).read _ _ (hbehind _ rfl) with ⟨seen, rest, ending, hread⟩
    cases hread.stops with
    | behind =>
      have hseen := hread.rows.trans (List.append_nil seen)
      rw [hread.verdicts, ← hseen]
      decide +kernel
    | refusal hstrict => cases hstrict
  · rcases @reads_row_by_row { Options.standard with strict := true } _ 0 "a" mixedTokens rfl
      (hagrees _) with ⟨⟨s, hs⟩, hreads⟩
    refine ⟨s, hs, ?_⟩
    rcases (hreads s hs).read _ _ (hbehind _ rfl) with ⟨seen, rest, ending, hread⟩
    have hrows := hread.rows
    rw [hread.records]
    -- it goes through the first row, which is well-formed, and not through the second
    rcases seen with _ | ⟨first, _ | ⟨second, seen⟩⟩
    · cases hread.stops with
      | behind => cases hrows
      | refusal _ hmalformed =>
        cases hrows
        cases hmalformed
    · cases hrows
      rfl
    · have hsecond : second = ⟨["2"], 3⟩ := by
        simp only [List.cons_append, List.cons.injEq] at hrows
        exact hrows.2.1.symm
      have hwellFormed := hread.strict rfl second (by simp)
      rw [hsecond] at hwellFormed
      cases hwellFormed

end Source
end RecordFlow
