import RecordFlow.Proofs.Source.Isolation

/-!
# Rows — what the rows of a source come to

A source looks at its rows up to the end or, if it is strict, up to the first one that is malformed.
Of the rows that it looks at it passes on the well-formed ones and rejects the others, and it ends
with an error at most.  `emissions_rows` says that this is all that a source emits.
-/

namespace RecordFlow

/-- Whether a record has a field, and one for every column. -/
def Record.isValid (r : Record) : Bool :=
  match r.validate with
  | .ok () => true
  | .error _ => false

/-- The two checks of a record agree. -/
theorem Record.isValid_eq_isComplete (r : Record) : r.isValid = r.isComplete := by
  unfold isValid validate isComplete
  cases hfields : r.fields with
  | nil => simp
  | cons field fields =>
    cases hcolumns : r.columns with
    | nil => simp
    | cons column columns =>
      by_cases hlength : fields.length = columns.length
      · simp [hlength]
      · simp [hlength, Ne.symm hlength]

namespace Source

/-- The records that a source looks at: all, or those up to the first malformed one. -/
def considered (options : Options) (records : List Record) : List Record :=
  if options.strict then records.takeWhile Record.isValid else records

theorem mem_of_mem_considered {options : Options} {records : List Record} {r : Record}
    (hr : r ∈ considered options records) : r ∈ records := by
  unfold considered at hr
  split at hr
  · exact (List.takeWhile_sublist _).subset hr
  · exact hr

namespace Opened

def record (o : Opened) (row : Csv.Row) : Record := ⟨row.line, o.name, row.fields, o.header⟩

/-- The error of a malformed record. -/
def malformed? (o : Opened) (r : Record) : Option FlowError :=
  match r.validate with
  | .ok () => none
  | .error e => some (.context "read_record" o.name r.line e)

def rejection? (o : Opened) (r : Record) : Option RecordError :=
  (o.malformed? r).map (⟨·, some r⟩)

/-- What a record comes to that its source does not end with. -/
def verdict (o : Opened) (r : Record) : Emission :=
  match o.malformed? r with
  | none => .record r
  | some error => .rejected error r

/-- The error of the fault behind some rows that follow the line `line`. -/
def faultBehind? (o : Opened) (line : Nat) (rows : List Csv.Row) : Option FlowError :=
  o.fault.map fun e =>
    .context "read_record" o.name ((rows.getLast?.map Csv.Row.line).getD line + 1) e

/-- The error that ends some rows: that of the first malformed one if the source is strict, and
otherwise that of the fault behind them. -/
def endingFrom? (options : Options) (o : Opened) (line : Nat) (rows : List Csv.Row) :
    Option FlowError :=
  if options.strict then
    ((rows.map o.record).findSome? o.malformed?).or (o.faultBehind? line rows)
  else o.faultBehind? line rows

def ending? (options : Options) (o : Opened) : Option FlowError :=
  o.endingFrom? options (if o.header.isSome then 1 else 0) o.rows

end Opened

/-- The records that a source passes on; `expected` is the header that it is compared with. -/
def passed (options : Options) (expected : Option (List String)) :
    Except FlowError Opened → List Record
  | .error _ => []
  | .ok o =>
    if (o.mismatch? expected).isSome then []
    else (considered options (o.rows.map o.record)).filter Record.isValid

/-- The records that a source rejects, each with its error. -/
def rejected (options : Options) (expected : Option (List String)) :
    Except FlowError Opened → List RecordError
  | .error _ => []
  | .ok o =>
    if (o.mismatch? expected).isSome then []
    else (considered options (o.rows.map o.record)).filterMap o.rejection?

/-- The error that a source ends with: it cannot be opened, its header is none or is not the one
expected, or its rows end with an error. -/
def failure? (options : Options) (expected : Option (List String)) :
    Except FlowError Opened → Option FlowError
  | .error e => some e
  | .ok o => (o.mismatch? expected).or (o.ending? options)

/-! ## Rows one by one -/

namespace Opened

variable (options : Options) (o : Opened)

/-- The last of some rows is the last of those behind the first, or the first itself. -/
theorem faultBehind?_cons (line : Nat) (row : Csv.Row) (rest : List Csv.Row) :
    o.faultBehind? line (row :: rest) = o.faultBehind? row.line rest := by
  have hlast : ((row :: rest).getLast?.map Csv.Row.line).getD line =
      (rest.getLast?.map Csv.Row.line).getD row.line := by
    rw [List.getLast?_cons]
    cases rest.getLast? <;> rfl
  rw [faultBehind?, faultBehind?, hlast]

theorem malformed?_of_validate_error {row : Csv.Row} {e : FlowError}
    (hvalidate : (o.record row).validate = .error e) :
    o.malformed? (o.record row) = some (.context "read_record" o.name row.line e) := by
  rw [malformed?, hvalidate]
  rfl

theorem rows_of_validate_ok {row : Csv.Row} (hvalid : (o.record row).validate = .ok ())
    (line : Nat) (rest : List Csv.Row) :
    o.bodyFrom options line (row :: rest) =
        .record (o.record row) :: o.bodyFrom options row.line rest ∧
      considered options ((row :: rest).map o.record) =
        o.record row :: considered options (rest.map o.record) ∧
      o.endingFrom? options line (row :: rest) = o.endingFrom? options row.line rest := by
  have hmalformed : o.malformed? (o.record row) = none := by simp [malformed?, hvalid]
  have hisValid : (o.record row).isValid = true := by simp [Record.isValid, hvalid]
  refine ⟨?_, ?_, ?_⟩
  · have hbody : Record.validate ⟨row.line, o.name, row.fields, o.header⟩ = .ok () := hvalid
    simp only [bodyFrom, hbody]
    rfl
  · cases hs : options.strict <;> simp [considered, hs, hisValid]
  · simp [endingFrom?, faultBehind?_cons, hmalformed]

/-- Rows give the verdicts on the records that the source looks at, and then the error that it ends
with, if there is one. -/
theorem bodyFrom_eq_verdicts (rows : List Csv.Row) (line : Nat) :
    o.bodyFrom options line rows =
      (considered options (rows.map o.record)).map o.verdict ++
        ((o.endingFrom? options line rows).map .failure).toList := by
  -- row by row; the line of a row is the one that the fault behind it counts from
  induction rows generalizing line with
  | nil =>
    have hconsidered : considered options (([] : List Csv.Row).map o.record) = [] := by
      cases hs : options.strict <;> simp [considered, hs]
    rw [hconsidered]
    cases hf : o.fault <;> simp [bodyFrom, faultAfter, endingFrom?, faultBehind?, hf]
  | cons row rest ih =>
    cases hvalid : (o.record row).validate with
    | ok _ =>
      rcases o.rows_of_validate_ok options hvalid line rest with
        ⟨hbody, hconsidered, hending⟩
      have hverdict : o.verdict (o.record row) = .record (o.record row) := by
        simp [verdict, malformed?, hvalid]
      rw [hbody, hconsidered, hending, ih row.line, List.map_cons, hverdict, List.cons_append]
    | error error =>
      have hbody : Record.validate ⟨row.line, o.name, row.fields, o.header⟩ = .error error := hvalid
      have hisValid : ¬ (o.record row).isValid = true := by simp [Record.isValid, hvalid]
      have hmalformed := o.malformed?_of_validate_error hvalid
      cases hs : options.strict with
      | true =>
        -- the source ends here
        have hconsidered : considered options ((row :: rest).map o.record) = [] := by
          simp [considered, hs, hisValid]
        have hending : o.endingFrom? options line (row :: rest) =
            some (.context "read_record" o.name row.line error) := by
          simp [endingFrom?, hs, hmalformed]
        rw [hconsidered, hending]
        simp [bodyFrom, hbody, hs]
      | false =>
        -- the row is rejected, and the source goes on
        have hconsidered : considered options ((row :: rest).map o.record) =
            o.record row :: considered options (rest.map o.record) := by
          simp [considered, hs]
        have hending : o.endingFrom? options line (row :: rest) =
            o.endingFrom? options row.line rest := by
          simp [endingFrom?, hs, faultBehind?_cons]
        have hnext : o.bodyFrom options line (row :: rest) =
            .rejected (.context "read_record" o.name row.line error) (o.record row) ::
              o.bodyFrom options row.line rest := by
          simp only [bodyFrom, hbody, hs]
          rfl
        have hverdict : o.verdict (o.record row) =
            .rejected (.context "read_record" o.name row.line error) (o.record row) := by
          simp [verdict, hmalformed]
        rw [hnext, hconsidered, hending, ih row.line, List.map_cons, hverdict, List.cons_append]

/-- The records among some verdicts are the well-formed ones. -/
theorem filterMap_record?_verdicts (records : List Record) :
    (records.map o.verdict).filterMap Emission.record? = records.filter Record.isValid := by
  rw [List.filterMap_map, ← List.filterMap_eq_filter]
  refine List.filterMap_congr fun r _ => ?_
  cases hvalid : r.validate <;>
    simp [verdict, malformed?, hvalid, Record.isValid, Emission.record?, Option.guard]

/-- The rejections among some verdicts are those of the malformed records. -/
theorem filterMap_rejection?_verdicts (records : List Record) :
    (records.map o.verdict).filterMap Emission.rejection? = records.filterMap o.rejection? := by
  rw [List.filterMap_map]
  refine List.filterMap_congr fun r _ => ?_
  cases hmalformed : o.malformed? r <;>
    simp [verdict, rejection?, hmalformed, Emission.rejection?]

theorem bodyFrom_rows (rows : List Csv.Row) (line : Nat) :
    (o.bodyFrom options line rows).filterMap Emission.record? =
        (considered options (rows.map o.record)).filter Record.isValid ∧
      (o.bodyFrom options line rows).filterMap Emission.rejection? =
        (considered options (rows.map o.record)).filterMap o.rejection? ++
        ((o.endingFrom? options line rows).map (⟨·, none⟩)).toList := by
  rw [bodyFrom_eq_verdicts, List.filterMap_append, List.filterMap_append,
    filterMap_record?_verdicts, filterMap_rejection?_verdicts]
  cases o.endingFrom? options line rows <;> simp [Emission.record?, Emission.rejection?]

end Opened

/-! ## What a source emits -/

/-- A source emits the records that it passes on, the errors of those that it rejects, and the error
that it ends with, if there is one. -/
theorem emissions_rows (options : Options) (expected : Option (List String))
    (source : Except FlowError Opened) :
    (emissions options expected source).filterMap Emission.record? =
        passed options expected source ∧
      (emissions options expected source).filterMap Emission.rejection? =
        rejected options expected source ++
          ((failure? options expected source).map (⟨·, none⟩)).toList := by
  cases source with
  | error error => exact ⟨rfl, rfl⟩
  | ok o =>
    cases hm : o.mismatch? expected with
    | some error =>
      rw [emissions_of_mismatch? hm]
      simp [passed, rejected, failure?, hm, Emission.record?, Emission.rejection?]
    | none =>
      rw [emissions_of_agreeing hm]
      have hrows := o.bodyFrom_rows options o.rows
        (if o.header.isSome then 1 else 0)
      simpa [passed, rejected, failure?, hm, Opened.body, Opened.ending?] using hrows

theorem isValid_of_mem_passed {options : Options} {expected : Option (List String)}
    {source : Except FlowError Opened} {r : Record} (hr : r ∈ passed options expected source) :
    r.isValid = true := by
  cases source with
  | error error => cases hr
  | ok o =>
    cases hm : o.mismatch? expected with
    | some error => simp [passed, hm] at hr
    | none =>
      rw [passed, hm] at hr
      exact (List.mem_filter.1 hr).2

theorem source_of_mem_passed {options : Options} {files : Files} {name : String} {p : Path}
    {expected : Option (List String)} {r : Record}
    (hr : r ∈ passed options expected (Opened.ofPath options files name p)) : r.source = name := by
  cases hsource : Opened.ofPath options files name p with
  | error error => simp [hsource, passed] at hr
  | ok o =>
    rw [hsource, passed] at hr
    split at hr
    · cases hr
    · rcases List.mem_map.1 (mem_of_mem_considered (List.mem_of_mem_filter hr)) with ⟨row, _, rfl⟩
      exact (Opened.ofPath_cases hsource).1

theorem source_of_mem_rejected {options : Options} {files : Files} {name : String} {p : Path}
    {expected : Option (List String)} {e : RecordError}
    (he : e ∈ rejected options expected (Opened.ofPath options files name p)) :
    ∃ r, e.record = some r ∧ r.source = name := by
  cases hsource : Opened.ofPath options files name p with
  | error error => simp [hsource, rejected] at he
  | ok o =>
    rw [hsource, rejected] at he
    split at he
    · cases he
    · rcases List.mem_filterMap.1 he with ⟨r, hr, hrejection⟩
      rcases Option.map_eq_some_iff.1 hrejection with ⟨error, _, rfl⟩
      rcases List.mem_map.1 (mem_of_mem_considered hr) with ⟨row, _, rfl⟩
      exact ⟨_, rfl, (Opened.ofPath_cases hsource).1⟩

end Source
end RecordFlow
