import RecordFlow.Proofs.Source.Isolation
import RecordFlow.Proofs.Source.Transparency
import RecordFlow.Proofs.Source.Verdicts

/-!
# Strictness — strict readings, lenient ones, and the reading of one source

A strict source gives what it would give if it were lenient, up to the first row that it would
reject; there it ends with the error of that row (`Tightens`).  Strictness does not matter to
anything else: not to the header of a source, and not to what other sources compare theirs with.

To read one source is to empty the two streams of a lenient reading, the one with the records and
the one with the errors, and to keep the first error.  Each stream is emptied in its own order, and
it does not matter how the two take turns (`answer_of_streams`).
-/

namespace RecordFlow
namespace Source

def Options.leniently (options : Options) : Options := { options with strict := false }

def Options.strictly (options : Options) : Options := { options with strict := true }

/-! ## Strict and lenient -/

/-- What a source gives if it is lenient, and what it gives if it is strict. -/
inductive Tightens : List Emission → List Emission → Prop where
  /-- No row is rejected. -/
  | unrejected (records : List Record) (ending : Option FlowError) :
      Tightens (records.map .record ++ (ending.map .failure).toList)
        (records.map .record ++ (ending.map .failure).toList)
  /-- The strict source ends at the first row that the lenient one rejects. -/
  | stopped (records : List Record) (error : FlowError) (r : Record) (rest : List Emission) :
      Tightens (records.map .record ++ .rejected error r :: rest)
        (records.map .record ++ [.failure error])

theorem Tightens.cons {lenient strict : List Emission} (h : Tightens lenient strict) (r : Record) :
    Tightens (.record r :: lenient) (.record r :: strict) := by
  cases h with
  | unrejected records ending => exact .unrejected (r :: records) ending
  | stopped records error r' rest => exact .stopped (r :: records) error r' rest

theorem Opened.tightens_bodyFrom (options : Options) (o : Opened) (rows : List Csv.Row)
    (line : Nat) :
    Tightens (o.bodyFrom options.leniently line rows) (o.bodyFrom options.strictly line rows) := by
  -- well-formed rows keep the two together, and the line that a fault is counted from
  induction rows generalizing line with
  | nil =>
    cases hf : o.fault with
    | none => simpa [bodyFrom, faultAfter, hf] using Tightens.unrejected [] none
    | some fault =>
      simpa [bodyFrom, faultAfter, hf] using Tightens.unrejected []
        (some (.context "read_record" o.name (line + 1) fault))
  | cons row rest ih =>
    cases hvalidate : (o.record row).validate with
    | ok _ =>
      rw [(o.rows_of_validate_ok options.leniently hvalidate line rest).1,
        (o.rows_of_validate_ok options.strictly hvalidate line rest).1]
      exact (ih row.line).cons (o.record row)
    | error e =>
      -- the two go apart here
      have hbody : Record.validate ⟨row.line, o.name, row.fields, o.header⟩ = .error e := hvalidate
      simp only [bodyFrom, hbody]
      exact .stopped [] (.context "read_record" o.name row.line e) (o.record row)
        (o.bodyFrom options.leniently row.line rest)

theorem tightens_emissions (options : Options) (expected : Option (List String))
    (source : Except FlowError Opened) :
    Tightens (emissions options.leniently expected source)
      (emissions options.strictly expected source) := by
  cases source with
  | error e => exact .unrejected [] (some e)
  | ok o =>
    cases hm : o.mismatch? expected with
    | some e =>
      rw [emissions_of_mismatch? hm, emissions_of_mismatch? hm]
      exact .unrejected [] (some e)
    | none =>
      rw [emissions_of_agreeing hm, emissions_of_agreeing hm]
      exact o.tightens_bodyFrom options o.rows _

/-- What a strict reading of a source emits, by what a lenient one does. -/
structure Restrains (lenient strict : List Emission) : Prop where
  /-- If the lenient reading rejects no row, both emit the same. -/
  unrejected : (∀ error r, Emission.rejected error r ∉ lenient) → strict = lenient
  /-- Otherwise the strict one emits what comes before the first rejected row, which are records
  only, and then the error of that row without the record. -/
  stopped : ∀ before error r rest, lenient = before ++ .rejected error r :: rest →
    (∀ error' r', Emission.rejected error' r' ∉ before) →
    before.filterMap Emission.rejection? = [] ∧ strict = before ++ [.failure error]

/-- Emissions are cut at the first rejected row in one way. -/
theorem cut_at_rejected {before before' rest rest' : List Emission} {error error' : FlowError}
    {r r' : Record} (hbefore : ∀ e ∈ before, ∀ error r, e ≠ .rejected error r)
    (hbefore' : ∀ e ∈ before', ∀ error r, e ≠ .rejected error r)
    (h : before ++ .rejected error r :: rest = before' ++ .rejected error' r' :: rest') :
    before = before' ∧ error = error' := by
  induction before generalizing before' with
  | nil =>
    cases before' with
    | nil =>
      cases h
      exact ⟨rfl, rfl⟩
    | cons e before' =>
      cases h
      exact absurd rfl (hbefore' _ List.mem_cons_self _ _)
  | cons e before ih =>
    cases before' with
    | nil =>
      cases h
      exact absurd rfl (hbefore _ List.mem_cons_self _ _)
    | cons e' before' =>
      rw [List.cons_append, List.cons_append, List.cons.injEq] at h
      rcases ih (fun e he => hbefore e (List.mem_cons_of_mem _ he))
        (fun e he => hbefore' e (List.mem_cons_of_mem _ he)) h.2 with ⟨hsame, herror⟩
      exact ⟨by rw [h.1, hsame], herror⟩

theorem ne_rejected_of_mem_records {records : List Record} {e : Emission}
    (he : e ∈ records.map Emission.record) (error : FlowError) (r : Record) :
    e ≠ .rejected error r := by
  rcases List.mem_map.1 he with ⟨r', _, rfl⟩
  exact fun h => nomatch h

theorem filterMap_records (records : List Record) :
    (records.map Emission.record).filterMap Emission.record? = records ∧
      (records.map Emission.record).filterMap Emission.rejection? = [] := by
  rw [List.filterMap_map, List.filterMap_map]
  exact ⟨List.filterMap_some, List.filterMap_none records⟩

theorem Tightens.restrains {lenient strict : List Emission} (h : Tightens lenient strict) :
    Restrains lenient strict := by
  cases h with
  | unrejected records ending =>
    refine ⟨fun _ => rfl, ?_⟩
    intro before error r rest hcut _
    have hmem : Emission.rejected error r ∈
        records.map Emission.record ++ (ending.map Emission.failure).toList := by
      rw [hcut]
      exact List.mem_append_right _ List.mem_cons_self
    rcases List.mem_append.1 hmem with hmem | hmem
    · exact absurd rfl (ne_rejected_of_mem_records hmem error r)
    · rcases Option.map_eq_some_iff.1 (Option.mem_toList.1 hmem) with ⟨_, _, hsame⟩
      cases hsame
  | stopped records error r rest =>
    constructor
    · intro hnone
      exact absurd (List.mem_append_right _ List.mem_cons_self) (hnone error r)
    · -- the cut given is the one at the row where the strict source has ended
      intro before error' r' rest' hcut hbefore
      rcases cut_at_rejected (fun e he => ne_rejected_of_mem_records he)
        (fun e he error r hsame => hbefore error r (hsame ▸ he)) hcut with ⟨rfl, rfl⟩
      exact ⟨(filterMap_records records).2, rfl⟩

/-! ## One source -/

/-- What has been taken from the two streams of a reading: the records, and the first error. -/
structure Haul where
  records : List Record
  error : Option FlowError

namespace Haul

def nothing : Haul := ⟨[], none⟩

/-- Takes what one of the streams has next; a record is kept, and an error unless there is one. -/
def take (h : Haul) : Emission → Haul
  | .record r => { h with records := h.records ++ [r] }
  | .rejected error _ | .failure error => { h with error := h.error.or (some error) }

/-- What the streams come to when both are empty. -/
def answer (h : Haul) : Except FlowError (List Record) :=
  match h.error with
  | some e => .error e
  | none => .ok h.records

theorem foldl_take (h : Haul) (taken : List Emission) :
    taken.foldl take h =
      ⟨h.records ++ taken.filterMap Emission.record?,
        h.error.or ((taken.filterMap Emission.rejection?).head?.map RecordError.error)⟩ := by
  induction taken generalizing h with
  | nil => simp
  | cons e rest ih =>
    rw [List.foldl_cons, ih]
    cases e with
    | record r =>
      have hrecords : (Emission.record r :: rest).filterMap Emission.record? =
          r :: rest.filterMap Emission.record? := rfl
      have herrors : (Emission.record r :: rest).filterMap Emission.rejection? =
          rest.filterMap Emission.rejection? := rfl
      rw [hrecords, herrors, List.append_cons]
      rfl
    | rejected error r => exact congrArg _ (Option.or_assoc ..)
    | failure error => exact congrArg _ (Option.or_assoc ..)

/-- It does not matter how the two streams take turns. -/
theorem answer_of_streams {taken emitted : List Emission}
    (hrecords : taken.filterMap Emission.record? = emitted.filterMap Emission.record?)
    (herrors : taken.filterMap Emission.rejection? = emitted.filterMap Emission.rejection?) :
    (taken.foldl take nothing).answer = (emitted.foldl take nothing).answer := by
  rw [foldl_take, foldl_take, hrecords, herrors]

theorem answer_records (records : List Record) :
    ((records.map Emission.record).foldl take nothing).answer = .ok records := by
  rw [foldl_take, (filterMap_records records).1, (filterMap_records records).2]
  rfl

/-- The error is the one right behind the records, whatever comes after it. -/
theorem answer_error (records : List Record) {first : Emission} {error : FlowError}
    {r : Option Record} (hfirst : first.rejection? = some ⟨error, r⟩) (rest : List Emission) :
    ((records.map Emission.record ++ first :: rest).foldl take nothing).answer = .error error := by
  rw [foldl_take, List.filterMap_append, List.filterMap_append, (filterMap_records records).2,
    List.filterMap_cons_some hfirst]
  rfl

end Haul

theorem findSome?_error? (emitted : List Emission) :
    emitted.findSome? Emission.error? =
      (emitted.filterMap Emission.rejection?).head?.map fun e => (e.error, e.record) := by
  induction emitted with
  | nil => rfl
  | cons e rest ih =>
    cases e with
    | record r => exact ih
    | rejected error r => rfl
    | failure error => rfl

/-- The options with which one source is read. -/
def singly (hasHeader : Bool) : Options := { Options.standard with hasHeader }

/-- One source, opened. -/
def openedSingly (hasHeader : Bool) (files : Files) (p : Path) : Except FlowError Opened :=
  Opened.ofPath (singly hasHeader) files (shortName p) p

theorem openAll_singly (hasHeader : Bool) (files : Files) (p : Path) :
    openAll (singly hasHeader) files [p] = [openedSingly hasHeader files p] := by
  simp [openAll, names, openedSingly]

/-- The reading of one source is what the emissions of a lenient one come to. -/
theorem readSingle_eq_answer (hasHeader : Bool) (files : Files) (p : Path) :
    readSingle hasHeader false files p =
      ((emissions (singly hasHeader) none (openedSingly hasHeader files p)).foldl
        Haul.take Haul.nothing).answer := by
  have hall : (readAll { Options.standard with hasHeader } false files [p]).flatten =
      emissions (singly hasHeader) none (openedSingly hasHeader files p) := by
    show (readAll (singly hasHeader) false files [p]).flatten = _
    simp [readAll, openAll_singly, emissionsFrom]
  rw [readSingle, if_neg Bool.false_ne_true]
  dsimp only
  rw [hall, findSome?_error?, Haul.foldl_take]
  cases ((emissions (singly hasHeader) none (openedSingly hasHeader files p)).filterMap
    Emission.rejection?).head? <;> rfl

/-- A lenient source that gives records only gives those of all its rows. -/
theorem rows_of_emissions {options : Options} (hlenient : options.strict = false)
    {expected : Option (List String)} {source : Except FlowError Opened} {records : List Record}
    (h : emissions options expected source = records.map .record) :
    ∃ o, source = .ok o ∧ records = o.rows.map o.record := by
  have hending : ∀ e : FlowError, [Emission.failure e] ≠ records.map .record := by
    intro e he
    cases records <;> cases he
  cases source with
  | error e => exact absurd h (hending e)
  | ok o =>
    refine ⟨o, rfl, ?_⟩
    cases hm : o.mismatch? expected with
    | some e => exact absurd ((emissions_of_mismatch? hm).symm.trans h) (hending e)
    | none =>
      rcases o.exists_reads options (if o.header.isSome then 1 else 0) with
        ⟨seen, rest, ending, hreads⟩
      -- a lenient source stops behind its last row only, so that it has gone through them all
      cases hreads.stops with
      | refusal hstrict => exact absurd (hstrict.symm.trans hlenient) (by decide)
      | behind =>
        have hbody : o.bodyFrom options (if o.header.isSome then 1 else 0) o.rows =
            records.map .record := (emissions_of_agreeing hm).symm.trans h
        have habout : (records.map Emission.record).filterMap Emission.about? = records := by
          rw [List.filterMap_map]
          exact List.filterMap_some
        have hrecords := hreads.records
        rw [hbody, habout] at hrecords
        rw [hrecords, hreads.rows, List.append_nil]
        rfl

/-- What two readings of one source come to: the lenient one has no error, or the strict one ends
with the first that it has. -/
theorem Tightens.answer_cases {lenient strict : List Emission} (h : Tightens lenient strict) :
    (∃ records : List Record, lenient = records.map .record ∧ strict = lenient ∧
      (lenient.foldl Haul.take Haul.nothing).answer = .ok records) ∨
    ∃ (records : List Record) (first : Emission) (rest : List Emission) (error : FlowError)
        (r : Option Record), lenient = records.map .record ++ first :: rest ∧
      first.rejection? = some ⟨error, r⟩ ∧ strict = records.map .record ++ [.failure error] ∧
      (lenient.foldl Haul.take Haul.nothing).answer = .error error := by
  cases h with
  | unrejected records ending =>
    cases ending with
    | none =>
      refine .inl ⟨records, List.append_nil _, rfl, ?_⟩
      rw [Option.map_none, Option.toList_none, List.append_nil]
      exact Haul.answer_records records
    | some error =>
      exact .inr ⟨records, .failure error, [], error, none, rfl, rfl, rfl,
        Haul.answer_error records rfl []⟩
  | stopped records error r rest =>
    exact .inr ⟨records, .rejected error r, rest, error, some r, rfl, rfl, rfl,
      Haul.answer_error records rfl rest⟩

/-- What the reading of one source has to do with what the source emits when it is lenient and when
it is strict. -/
structure SingleAgrees (opened : Except FlowError Opened) (single : Except FlowError (List Record))
    (lenient strict : List Emission) : Prop where
  ok_iff : (∃ records, single = .ok records) ↔ lenient.filterMap Emission.rejection? = []
  /-- The records are those of all rows of the file, in their order, and they are what the source
  emits, lenient or strict. -/
  records : ∀ records, single = .ok records →
    (∃ o, opened = .ok o ∧ records = o.rows.map o.record) ∧
      lenient = records.map .record ∧ strict = records.map .record
  /-- The error is the first that the lenient source emits, and the one that the strict source ends
  with. -/
  error : ∀ error, single = .error error →
    ∃ (records : List Record) (first : Emission) (rest : List Emission) (r : Option Record),
      lenient = records.map .record ++ first :: rest ∧ first.rejection? = some ⟨error, r⟩ ∧
        strict = records.map .record ++ [.failure error]
  /-- So it is however the stream of records and that of errors take turns. -/
  drained : ∀ taken : List Emission,
    taken.filterMap Emission.record? = lenient.filterMap Emission.record? →
    taken.filterMap Emission.rejection? = lenient.filterMap Emission.rejection? →
    (taken.foldl Haul.take Haul.nothing).answer = single

theorem singleAgrees_emissions (hasHeader : Bool) (files : Files) (p : Path) :
    SingleAgrees (openedSingly hasHeader files p) (readSingle hasHeader false files p)
      (emissions (singly hasHeader) none (openedSingly hasHeader files p))
      (emissions (singly hasHeader).strictly none (openedSingly hasHeader files p)) := by
  have hcases := (tightens_emissions (singly hasHeader) none
    (openedSingly hasHeader files p)).answer_cases
  have hlenient : (singly hasHeader).leniently = singly hasHeader := rfl
  rw [hlenient, ← readSingle_eq_answer] at hcases
  have hdrained := fun (taken : List Emission) hrecords herrors =>
    (@Haul.answer_of_streams taken _ hrecords herrors).trans
      (readSingle_eq_answer hasHeader files p).symm
  rcases hcases with ⟨records, hall, hsame, hsingle⟩ |
    ⟨records, first, rest, error, r, hall, hfirst, hstrict, hsingle⟩
  · have hnone := (filterMap_records records).2
    rw [← hall] at hnone
    refine ⟨⟨fun _ => hnone, fun _ => ⟨records, hsingle⟩⟩, ?_, ?_, hdrained⟩
    · intro records' hrecords'
      cases hsingle.symm.trans hrecords'
      exact ⟨rows_of_emissions rfl hall, hall, hsame.trans hall⟩
    · intro error herror
      cases hsingle.symm.trans herror
  · refine ⟨⟨?_, ?_⟩, ?_, ?_, hdrained⟩
    · rintro ⟨records', hrecords'⟩
      cases hsingle.symm.trans hrecords'
    · intro hnone
      rw [hall, List.filterMap_append, List.filterMap_cons_some hfirst] at hnone
      exact absurd hnone (by simp)
    · intro records' hrecords'
      cases hsingle.symm.trans hrecords'
    · intro error' herror'
      cases hsingle.symm.trans herror'
      exact ⟨records, first, rest, r, hall, hfirst, hstrict⟩

/-! ## The three readings -/

/-- Strict readings, lenient ones and the reading of one source agree.  The first two come to an
end, and where nothing disturbs them, every source gives the same in both up to the first row that
the lenient one rejects, and there the strict one ends with the error of the row.  The reading of
one source gives the records of its rows if the lenient one has no error, and otherwise the first
error of that, which is the last of the strict one. -/
theorem readings_agree (options : Options) (files : Files) (paths : List Path) :
    (∃ s : Session, s.Completes options.leniently (openAll options.leniently files paths)) ∧
    (∃ t : Session, t.Completes options.strictly (openAll options.strictly files paths)) ∧
    (∀ s t : Session, s.Completes options.leniently (openAll options.leniently files paths) →
      t.Completes options.strictly (openAll options.strictly files paths) →
      ∀ i < paths.length, Restrains (s.emittedBy i) (t.emittedBy i)) ∧
    ∀ (hasHeader : Bool) (p : Path) (s t : Session),
      s.Completes (singly hasHeader) (openAll (singly hasHeader) files [p]) →
      t.Completes (singly hasHeader).strictly (openAll (singly hasHeader).strictly files [p]) →
      SingleAgrees (openedSingly hasHeader files p) (readSingle hasHeader false files p)
        (s.emittedBy 0) (t.emittedBy 0) := by
  refine ⟨Session.exists_completes _ _, Session.exists_completes _ _, ?_, ?_⟩
  · intro s t hs ht i hi
    have hlength : i < (openAll options.leniently files paths).length := by simpa using hi
    have hsource := List.getElem?_eq_getElem hlength
    rw [hs.emittedBy_eq hsource, ht.emittedBy_eq hsource]
    exact (tightens_emissions options _ _).restrains
  · intro hasHeader p s t hs ht
    have hsource : (openAll (singly hasHeader) files [p])[0]? =
        some (openedSingly hasHeader files p) := by
      rw [openAll_singly, List.getElem?_cons_zero]
    rw [hs.emittedBy_eq hsource, ht.emittedBy_eq hsource]
    exact singleAgrees_emissions hasHeader files p

/-- The lines `i,n`, `1,x`, `2` and `3,z`, and one with a field that is no text. -/
def mixedLines : List UInt8 :=
  [105, 44, 110, 10, 49, 44, 120, 10, 50, 10, 51, 44, 122, 10, 52, 44, 255, 10]

/-- The error of the short row. -/
def shortRow : FlowError :=
  .context "read_record" "a" 3
    (.invalidRecord "field count mismatch: expected 2 fields, got 1 (line 3 in a)")

/-- The lenient source has two errors; the strict one ends with the first, and the reading of one
source returns it. -/
theorem readings_of_mixedLines_agree :
    ∃ s t : Session,
      s.Completes (singly true) (openAll (singly true) (oneFile mixedLines) [⟨"a"⟩]) ∧
      t.Completes (singly true).strictly
        (openAll (singly true).strictly (oneFile mixedLines) [⟨"a"⟩]) ∧
      ((s.emittedBy 0).filterMap Emission.rejection?).length = 2 ∧
      t.emittedBy 0 = [.record ⟨2, "a", ["1", "x"], some ["i", "n"]⟩, .failure shortRow] ∧
      readSingle true false (oneFile mixedLines) ⟨"a"⟩ = .error shortRow := by
  rcases readings_agree (singly true) (oneFile mixedLines) [⟨"a"⟩] with
    ⟨⟨s, hs⟩, ⟨t, ht⟩, hrestrains, hsingle⟩
  have hlenient : some (s.emittedBy 0) = some
      [.record ⟨2, "a", ["1", "x"], some ["i", "n"]⟩,
       .rejected shortRow ⟨3, "a", ["2"], some ["i", "n"]⟩,
       .record ⟨4, "a", ["3", "z"], some ["i", "n"]⟩,
       .failure (.context "read_record" "a" 5 (.invalidCsv
        ("CSV parse error: record 4 (line 5, field: 1, byte: 14): invalid utf-8: " ++
          "invalid UTF-8 in field 1 near byte index 0")))] :=
    (Session.Completes.emittedBy_eq_readAll hs (by decide)).symm.trans (by decide +kernel)
  have hemitted := Option.some_inj.1 hlenient
  refine ⟨s, t, hs, ht, by rw [hemitted]; rfl, ?_, ?_⟩
  · exact ((hrestrains s t hs ht 0 (by decide)).stopped
      [.record ⟨2, "a", ["1", "x"], some ["i", "n"]⟩] _ _ _ hemitted (by simp)).2
  · have hdrained := (hsingle true ⟨"a"⟩ s t hs ht).drained (s.emittedBy 0) rfl rfl
    rw [← hdrained, hemitted]
    rfl

end Source
end RecordFlow
