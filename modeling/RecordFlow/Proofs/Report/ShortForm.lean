import RecordFlow.Proofs.Report.Characters
import RecordFlow.Proofs.Run.Concord
import RecordFlow.Proofs.Run.Lossless
import RecordFlow.Proofs.Run.Sources

/-!
# Short form — when an error is one line

The short form of an error is meant for listings with one line for each error.  In a run of the
validator an entry comes from a source or from the validator, and both show numbers, fixed words and
the names of sources, but for one case: a cell of the first row that is refused as the name of a
column is shown as it is, and a quoted cell may have line breaks.

* `Entry.lacks_line` reduces the short form to the message,
* `Call.lacks_failure` is about the validator, and `Source.Reports.showsCell` about sources,
* `Run.short_form_is_broken_iff` says of every entry of a run when its short form is broken, and
  hence when the listing can be taken apart again.
-/

namespace RecordFlow

/-! ## Entries -/

theorem Category.lacks_label {c : Char} (hc : c ∈ lineBreaks) (category : Category) :
    Lacks c category.label := by
  cases category <;> exact lacks_words hc (by decide)

/-- The short form adds the place of a record and a category to the message. -/
theorem Entry.lacks_line {c : Char} (hc : c ∈ lineBreaks) {e : Entry}
    (hsource : ∀ r, e.record = some r → Lacks c r.source) :
    Lacks c e.line ↔ Lacks c e.error.message := by
  have hopen : Lacks c "[" := lacks_words hc (by decide)
  have hclose : Lacks c "] " := lacks_words hc (by decide)
  have hcategory := e.category.lacks_label hc
  unfold line
  cases hrecord : e.record with
  | none => simp only [lacks_append_iff, hopen, hcategory, hclose, true_and]
  | some r =>
    have hcolon : Lacks c ":" := lacks_words hc (by decide)
    have hgap : Lacks c " " := lacks_words hc (by decide)
    simp only [lacks_append_iff, hsource r hrecord, hcolon, lacks_nat hc, hgap, hopen, hcategory,
      hclose, true_and]

/-- The lines of a text are the lines that it was made of if and only if none of them is broken. -/
theorem splitOn_unlines_iff (lines : List String) :
    (unlines lines).toList.splitOn '\n' = lines.map String.toList ++ [[]] ↔
      ∀ line ∈ lines, Lacks '\n' line := by
  refine ⟨?_, splitOn_unlines⟩
  intro hpieces line hline
  have hpiece : line.toList ∈ (unlines lines).toList.splitOn '\n' := by
    rw [hpieces]
    exact List.mem_append_left _ (List.mem_map_of_mem hline)
  exact Split.notMem_of_mem hpiece

/-! ## Where entries come from -/

theorem Call.record_of_failure? {call : Call} {error : RecordError}
    (h : call.failure? = some error) : error.record = some call.record := by
  unfold failure? at h
  split at h <;> cases h <;> rfl

/-- The validator shows the place of a record and the numbers of its fields. -/
theorem Call.lacks_failure {c : Char} (hc : c ∈ lineBreaks) {call : Call} {cancelled : Bool}
    (hverdict : call.verdict = (validator cancelled call.record).verdict)
    (hsource : Lacks c call.record.source) {error : RecordError}
    (h : call.failure? = some error) : Lacks c error.error.message := by
  rcases call with ⟨r, verdict⟩
  simp only at hverdict hsource
  subst hverdict
  unfold validator at h
  cases cancelled with
  | true =>
    -- under a cancellation the validator looks at no record
    cases h
    refine (FlowError.lacks_message_context hc (lacks_words hc (by decide)) hsource).2 ?_
    exact lacks_words hc (by decide)
  | false =>
    cases hcomplete : r.isComplete with
    | true =>
      rw [hcomplete] at h
      cases h
    | false =>
      rw [hcomplete] at h
      cases h
      have hexpected : Lacks c "expected " := lacks_words hc (by decide)
      exact FlowError.lacks_invalidRecord hc (r.lacks_numbers hc hsource hexpected)

theorem Source.Reports.source_of_record {options : Options} {files : Files} {name : String}
    {p : Path} {expected : Option (List String)} {error : RecordError}
    (h : Reports options files name p expected error) {r : Record}
    (hrecord : error.record = some r) : r.source = name := by
  cases h with
  | malformed hsource _ hrejected =>
    rcases hrejected with rfl | rfl
    · cases hrecord
    · cases hrecord
      exact hsource
  | _ => cases hrecord

namespace Run

variable {options : RunOptions} {output : Output} {files : Files} {created start : Instant}
  {log : Log} {calls : List Call} {f : Flow}

/-- An error that shows a character of a cell of one of the sources of a run. -/
def ShowsCell (options : RunOptions) (files : Files) (c : Char) (error : RecordError) : Prop :=
  ∃ (i : Nat) (name : String) (p : Path), options.sources[i]? = some p ∧
    (Source.names options.sources)[i]? = some name ∧
    Source.ShowsCell options.reading files name p c error

/-- The processor is called for records that carry the names of the sources. -/
theorem source_of_mem_calls {handler : Handler}
    (hcalled : ((ofOptions options output created).launch files start).Called handler log
      calls f) {call : Call} (hcall : call ∈ calls) :
    call.record.source ∈ Source.names options.sources := by
  have hstart : ((ofOptions options output created).launch files start).reading.BelongsTo
      (Source.names options.sources) := by
    rw [reading_launch]
    exact Source.Reading.belongsTo_openAll files options.sources
  have hrecord : call.record ∈ log.records :=
    (collectedOnce_of_called hcalled).called.subset (List.mem_map_of_mem hcall)
  rcases List.mem_filterMap.1 hrecord with ⟨⟨i, e⟩, he, hrecord⟩
  refine (hcalled.trace.emitted_belongsTo hstart).2 (i, e) he call.record ?_
  cases e with
  | record r => exact hrecord
  | rejected | failure => cases hrecord

/-- What the collector of a run holds is a failure of a call or an error of a source. -/
theorem cause_cases {handler : Handler}
    (hcalled : ((ofOptions options output created).launch files start).Called handler log
      calls f) {e : Entry} (he : e ∈ f.ledger.collector.entries) :
    (∃ call ∈ calls, call.failure? = some e.cause) ∨ e.cause ∈ log.rejections := by
  have hmem := (collectedOnce_of_called hcalled).atMostOnce.subset (List.mem_map_of_mem he)
  rcases List.mem_append.1 hmem with hfailure | hrejection
  · exact .inl (List.mem_filterMap.1 hfailure)
  · exact .inr hrejection

/-- The first header that is shared is one that is accepted. -/
theorem validate_of_firstShared? {reading : Source.Options} {paths : List Path} {i : Nat}
    {header : List String} (h : Source.firstShared? reading
      ((Source.openAll reading files paths).take i) = some header) :
    Header.validate header = .ok () := by
  rcases Source.compares_of_firstShared? h with ⟨_, j, _, hheader, _⟩
  rcases Option.bind_eq_some_iff.1 hheader with ⟨_, _, hheader⟩
  exact Source.validate_of_acceptedHeader? hheader

theorem source_of_mem_entries {handler : Handler}
    (hcalled : ((ofOptions options output created).launch files start).Called handler log
      calls f) {e : Entry} (he : e ∈ f.ledger.collector.entries) {r : Record}
    (hr : e.record = some r) : r.source ∈ Source.names options.sources := by
  rcases cause_cases hcalled he with ⟨call, hcall, hfailure⟩ | hrejection
  · cases hr.symm.trans (Call.record_of_failure? hfailure)
    exact source_of_mem_calls hcalled hcall
  · rcases reports_of_mem_rejections hcalled.trace hrejection with
      ⟨_, name, _, _, hname, hreports⟩
    rw [hreports.source_of_record hr]
    exact List.mem_of_getElem? hname

/-- The short form of an entry is broken by a refused cell, and by nothing else. -/
theorem mem_line_iff {c : Char} (hc : c ∈ lineBreaks)
    (hpaths : ∀ p ∈ options.sources, Lacks c p.text)
    (hcalled : ((ofOptions options output created).launch files start).Called validator log
      calls f) {e : Entry} (he : e ∈ f.ledger.collector.entries) :
    c ∈ e.line.toList ↔ ShowsCell options files c e.cause := by
  have hline : Lacks c e.line ↔ Lacks c e.error.message :=
    Entry.lacks_line hc fun _ hr =>
      Source.lacks_of_names hpaths (source_of_mem_entries hcalled he hr)
  refine (not_iff_not.1 hline).trans ⟨?_, ?_⟩
  · intro hmem
    rcases cause_cases hcalled he with ⟨call, hcall, hfailure⟩ | hrejection
    · rcases List.getElem?_of_mem hcall with ⟨n, hn⟩
      rcases hcalled.answered n call hn with ⟨_, hverdict, _⟩
      have hsource := Source.lacks_of_names hpaths (source_of_mem_calls hcalled hcall)
      exact absurd hmem (call.lacks_failure hc hverdict hsource hfailure)
    · rcases reports_of_mem_rejections hcalled.trace hrejection with
        ⟨i, name, p, hp, hname, hreports⟩
      have hshows := hreports.showsCell hc
        (Source.lacks_of_names hpaths (List.mem_of_getElem? hname))
        (hpaths p (List.mem_of_getElem? hp)) (fun _ => validate_of_firstShared?) hmem
      exact ⟨i, name, p, hp, hname, hshows⟩
  · rintro ⟨_, _, _, _, _, hshows⟩
    exact hshows.mem_message

/-- For all sources without line breaks in their paths, all settings of the reader and any order of
the moves, at any time of a run of the validator:

* a character that ends a line is in the short form of an entry if and only if it is in a cell that
  the entry shows because the cell is refused as the name of a column,
* a listing of the entries in short form, each ended by a line break, can be taken apart into them
  again if and only if no entry shows a cell with a line break. -/
theorem short_form_is_broken_iff (options : RunOptions) (output : Output) (files : Files)
    (created start : Instant) (log : Log) (f : Flow)
    (hpaths : ∀ p ∈ options.sources, isOneLine p.text = true)
    (htrace : Flow.Trace validator ((ofOptions options output created).launch files start) log f) :
    (∀ e ∈ f.ledger.collector.entries, ∀ c ∈ lineBreaks,
      (c ∈ e.line.toList ↔ ShowsCell options files c e.cause)) ∧
    ((unlines (f.ledger.collector.entries.map Entry.line)).toList.splitOn '\n' =
        (f.ledger.collector.entries.map Entry.line).map String.toList ++ [[]] ↔
      ∀ e ∈ f.ledger.collector.entries, ¬ ShowsCell options files '\n' e.cause) := by
  rcases htrace.exists_called with ⟨calls, hcalled⟩
  have hentries : ∀ e ∈ f.ledger.collector.entries, ∀ c ∈ lineBreaks,
      (c ∈ e.line.toList ↔ ShowsCell options files c e.cause) := by
    intro e he c hc
    have hlacks : ∀ p ∈ options.sources, Lacks c p.text := by
      intro p hp
      exact lacks_of_isOneLine hc (hpaths p hp)
    exact mem_line_iff hc hlacks hcalled he
  refine ⟨hentries, ?_⟩
  have hfeed : '\n' ∈ lineBreaks := List.mem_cons_self
  rw [splitOn_unlines_iff, List.forall_mem_map]
  exact forall₂_congr fun e he => not_congr (hentries e he '\n' hfeed)

def quotedOptions : RunOptions := { sampleOptions with sources := [⟨"a.csv"⟩] }

/-- The file `a.csv` with the line `"a`, the line `b",c` and the line `1,2`. -/
def quotedFiles : Files where
  root := .directory
    [("a.csv", .file [34, 97, 10, 98, 34, 44, 99, 10, 49, 44, 50, 10])]
  cwd := []

def quotedStart : Flow := (ofOptions quotedOptions .none default).launch quotedFiles default

/-- The one error of the run has two lines, since it shows the first cell. -/
theorem short_form_is_broken_quoted :
    let entries := (quotedStart.settle validator default).ledger.collector.entries
    entries.length = 1 ∧ (∀ e ∈ entries, ShowsCell quotedOptions quotedFiles '\n' e.cause) ∧
      (unlines (entries.map Entry.line)).toList.splitOn '\n' ≠
        (entries.map Entry.line).map String.toList ++ [[]] := by
  have hpaths : ∀ p ∈ quotedOptions.sources, isOneLine p.text = true := by decide +kernel
  have htrace := (Course.called_settled validator default quotedStart).trace
  rcases short_form_is_broken_iff quotedOptions .none quotedFiles default default _ _ hpaths
    htrace with ⟨hentries, hlisting⟩
  have hone : (quotedStart.settle validator default).ledger.collector.entries.length = 1 := by
    decide +kernel
  have hbroken : ∀ e ∈ (quotedStart.settle validator default).ledger.collector.entries,
      '\n' ∈ e.line.toList := by decide +kernel
  have hshows : ∀ e ∈ (quotedStart.settle validator default).ledger.collector.entries,
      ShowsCell quotedOptions quotedFiles '\n' e.cause := by
    intro e he
    exact (hentries e he '\n' List.mem_cons_self).1 (hbroken e he)
  refine ⟨hone, hshows, ?_⟩
  intro hpieces
  rcases List.exists_mem_of_length_pos (hone ▸ Nat.one_pos) with ⟨e, he⟩
  exact hlisting.1 hpieces e he (hshows e he)

/-- A short form of more than one line, although the path of the source has no line break. -/
theorem short_form_of_quoted :
    (∀ p ∈ quotedOptions.sources, isOneLine p.text = true) ∧
    ((ofOptions quotedOptions .none default).execute validator quotedFiles default
      default).1.ledger.collector.entries.map Entry.line =
      ["[VALIDATION] validate_header: a.csv:1: validation error: field=column 1, value=a\nb, " ++
        "message=header name contains invalid characters"] ∧
    ¬ ∀ e ∈ ((ofOptions quotedOptions .none default).execute validator quotedFiles default
      default).1.ledger.collector.entries, isOneLine e.line = true := by
  refine ⟨?_, ?_, ?_⟩ <;> decide +kernel

end Run
end RecordFlow
