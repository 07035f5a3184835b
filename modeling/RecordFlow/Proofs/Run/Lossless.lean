import RecordFlow.Proofs.Ledger.Faults
import RecordFlow.Proofs.Record
import RecordFlow.Proofs.Run.Accounting

/-!
# Lossless — reading the output back

The output of validated records is text of which every line is one record.  Taken apart at the line
breaks and read as JSON, the lines tell the records that passed, in the order in which they were
accounted for (`Ledger.output_tells_records`): every column under its name, whatever the characters
of the fields.
-/

namespace RecordFlow

/-! ## Framing -/

theorem unlines_cons (line : String) (rest : List String) :
    (unlines (line :: rest)).toList = line.toList ++ '\n' :: (unlines rest).toList := by
  simp [unlines, String.join_cons]

/-- Lines without line breaks are what stands between the line breaks of their text. -/
theorem splitOn_unlines {lines : List String} (hlines : ∀ line ∈ lines, '\n' ∉ line.toList) :
    (unlines lines).toList.splitOn '\n' = lines.map String.toList ++ [[]] := by
  induction lines with
  | nil => rfl
  | cons line rest ih =>
    have hline := List.splitOn_eq_singleton (hlines line List.mem_cons_self)
    have hrest := ih fun line hline => hlines line (List.mem_cons_of_mem _ hline)
    rw [unlines_cons, List.splitOn_append_cons_self, hline, hrest]
    rfl

/-- An output with a new sink has some of the lines from the first on, and all unless it failed. -/
theorem Output.lines_writeAll_front (sink : Sink) (lines : List String) :
    ((ofSink sink).writeAll lines).lines <+: lines ∧
      (((ofSink sink).writeAll lines).fault = .none →
        ((ofSink sink).writeAll lines).lines = lines) := by
  rcases sink.takes_or_failsBehind lines with htakes | ⟨before, fault, hfails⟩
  · rw [writeAll_of_takes htakes]
    have hsame : Output.lines ⟨some sink, lines.reverse, .none⟩ = lines :=
      List.reverse_reverse lines
    rw [hsame]
    exact ⟨List.prefix_rfl, fun _ => rfl⟩
  · rw [writeAll_of_failsBehind hfails]
    have hsame : Output.lines ⟨.none, before.reverse, some fault⟩ = before :=
      List.reverse_reverse before
    rcases hfails.follows with ⟨line, after, rfl⟩
    rw [hsame]
    exact ⟨⟨line :: after, rfl⟩, fun hfault => by cases hfault⟩

/-! ## Records that passed -/

/-- The record of a result, if it has the form that it must have. -/
def Event.accepted? : Event → Option Record
  | .result r => if r.record.isValid then some r.record else none
  | _ => none

theorem payload?_validated (r : Record) :
    (validated r).payload? = if r.isValid then some r.toJson else none := by
  rw [Record.isValid_eq_isComplete, validated, validator]
  cases r.isComplete <;> rfl

/-- The lines of validated records are the JSON forms of those that passed. -/
theorem Event.line?_of_validated {e : Event}
    (hvalidated : ∀ r, e = .result r → r = validated r.record) :
    e.line? = e.accepted?.map fun r => r.toJson.render := by
  cases e with
  | reading e => rcases e with ⟨error, _ | r⟩ <;> rfl
  | processing e => rfl
  | result r =>
    obtain ⟨record, rfl⟩ : ∃ record, r = validated record := ⟨_, hvalidated r rfl⟩
    have hsame : (validated record).record = record := rfl
    simp only [line?, counted?, accepted?, Option.bind_some, payload?_validated, hsame]
    cases record.isValid <;> rfl

namespace Ledger

section Validated

variable {l : Ledger} {sink : Sink} {header : Option (List String)}
  {history : List (Moment × Event)}

/-- What passed among validated records with one header is valid and has that header. -/
theorem accepted_of_validated
    (hheader : ∀ names, header = some names → Header.validate names = .ok ())
    (hshared : ∀ e ∈ history, ∀ r, e.2 = .result r → r.record.header = header) :
    ∀ r ∈ history.filterMap (fun e => e.2.accepted?),
      r.isValid = true ∧ r.Headed ∧ r.header = header := by
  intro r hr
  rcases List.mem_filterMap.1 hr with ⟨⟨time, e⟩, he, haccepted⟩
  cases e with
  | reading e => cases haccepted
  | processing e => cases haccepted
  | result result =>
    simp only [Event.accepted?, Option.ite_none_right_eq_some, Option.some.injEq] at haccepted
    rcases haccepted with ⟨hvalid, rfl⟩
    have hsame := hshared _ he result rfl
    refine ⟨hvalid, fun names hnames => hheader names ?_, hsame⟩
    rw [← hsame, hnames]

/-- What goes to the output is told by the records that passed. -/
theorem output_of_validated (hfresh : l.output = .ofSink sink)
    (hheader : ∀ names, header = some names → Header.validate names = .ok ())
    (hvalidated : ∀ e ∈ history, ∀ r, e.2 = .result r →
      r = validated r.record ∧ r.record.header = header) :
    (l.accountAll history).output = (Output.ofSink sink).writeAll
      ((history.filterMap fun e => e.2.accepted?).map fun r => r.told.render) := by
  have haccepted := accepted_of_validated hheader fun e he r hr => (hvalidated e he r hr).2
  have hforms : history.filterMap (fun e => e.2.line?) =
      (history.filterMap fun e => e.2.accepted?).map fun r => r.toJson.render := by
    rw [List.map_filterMap]
    apply List.filterMap_congr
    intro e he
    apply e.2.line?_of_validated
    exact fun r hr => (hvalidated e he r hr).1
  rw [output_accountAll, hfresh, hforms]
  refine congrArg _ (List.map_congr_left ?_)
  intro r hr
  rcases haccepted r hr with ⟨hvalid, hheaded, _⟩
  rw [Record.toJson_eq_told hheaded hvalid]

end Validated

/-- The text that went to the output, line for line, tells the records that passed: all of them in
the order of the accounts unless the output failed, and those before the failure otherwise.  With a
header each of them has one field a column, and every column is found under its name. -/
theorem output_tells_records {l : Ledger} {sink : Sink} (hfresh : l.output = .ofSink sink)
    {header : Option (List String)}
    (hheader : ∀ names, header = some names → Header.validate names = .ok ())
    {history : List (Moment × Event)}
    (hvalidated : ∀ e ∈ history, ∀ r, e.2 = .result r →
      r = validated r.record ∧ r.record.header = header) :
    let records := history.filterMap fun e => e.2.accepted?
    let output := (l.accountAll history).output
    (∃ written pieces, written <+: records ∧ (output.fault = .none → written = records) ∧
      (unlines output.lines).toList.splitOn '\n' = pieces ++ [[]] ∧
      pieces.map (fun piece => Json.read? (String.ofList piece)) =
        written.map fun r => some r.told) ∧
    ∀ r ∈ records, ∀ names, header = some names →
      names.Nodup ∧ names.length = r.fields.length ∧
      ∀ i (hi : i < names.length), r.fieldByName? (names.get ⟨i, hi⟩) = r.fields[i]? := by
  intro records output
  have houtput : output = (Output.ofSink sink).writeAll (records.map fun r => r.told.render) :=
    output_of_validated hfresh hheader hvalidated
  constructor
  · rcases Output.lines_writeAll_front sink (records.map fun r => r.told.render) with
      ⟨hfront, hall⟩
    rw [← houtput] at hfront hall
    rcases List.prefix_map_iff.1 hfront with ⟨written, hwritten, hmap⟩
    -- the printer escapes the line breaks of fields, so that only the ends of lines are left
    have hbreaks : ∀ line ∈ output.lines, '\n' ∉ line.toList := by
      intro line hline
      rw [hmap] at hline
      rcases List.mem_map.1 hline with ⟨r, _, rfl⟩
      rw [Json.render, String.toList_ofList]
      exact Json.lineBreak_notMem_renderChars r.isWhole_told
    refine ⟨written, output.lines.map String.toList, hwritten, ?_, splitOn_unlines hbreaks, ?_⟩
    · -- what was written is all if it is as long
      intro hfault
      have hlength := congrArg List.length (hall hfault)
      rw [hmap, List.length_map, List.length_map] at hlength
      exact hwritten.eq_of_length hlength
    · rw [List.map_map, hmap, List.map_map]
      apply List.map_congr_left
      intro r _
      simp [Json.read?_render r.isWhole_told]
  · intro r hr names hnames
    have haccepted := accepted_of_validated hheader fun e he r hr => (hvalidated e he r hr).2
    rcases haccepted r hr with ⟨hvalid, hheaded, hsame⟩
    have hown : r.header = some names := hsame.trans hnames
    exact ⟨(Header.nodup_of_validate (hheader names hnames)).2, r.length_fields hheaded hvalid hown,
      fun i hi => r.fieldByName?_column hheaded hown hi⟩

/-- A record the fields of which have a quotation mark, a backslash, a line break and a control
character. -/
def awkward : Record := ⟨2, "a.csv", ["say \"hi\"\n", "C:\\\u0001"], some ["id", "full name"]⟩

theorem output_tells_awkward :
    let l := (Run.ofOptions Run.sampleOptions (.ofSink .reliable) default).ledger
    let output := (l.accountAll [(default, .result (validated awkward))]).output
    (∃ pieces, (unlines output.lines).toList.splitOn '\n' = pieces ++ [[]] ∧
      pieces.map (fun piece => Json.read? (String.ofList piece)) = [some (.object
        [("id", .string "say \"hi\"\n"), ("full name", .string "C:\\\u0001")])]) ∧
    awkward.fieldByName? "full name" = some "C:\\\u0001" := by
  intro l output
  have hheader : ∀ names, some ["id", "full name"] = some names →
      Header.validate names = .ok () := by
    rintro names ⟨⟩
    decide +kernel
  have hvalidated : ∀ e ∈ [((default : Moment), Event.result (validated awkward))], ∀ r,
      e.2 = .result r → r = validated r.record ∧ r.record.header = some ["id", "full name"] := by
    rintro e he r hr
    rcases List.mem_singleton.1 he with rfl
    cases hr
    exact ⟨rfl, rfl⟩
  rcases output_tells_records (l := l) rfl hheader hvalidated with
    ⟨⟨written, pieces, _, hall, htext, htold⟩, hcolumns⟩
  have hwritten : written = [awkward] := hall rfl
  refine ⟨⟨pieces, htext, ?_⟩, ?_⟩
  · rw [htold, hwritten]
    rfl
  · rcases hcolumns awkward (by decide +kernel) _ rfl with ⟨_, _, hfound⟩
    exact hfound 1 (by decide)

end Ledger
end RecordFlow
