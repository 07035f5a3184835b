import RecordFlow.Proofs.Collector.Kinds
import RecordFlow.Proofs.Collector.Transcript
import RecordFlow.Proofs.Files.Writes
import RecordFlow.Proofs.Json.Document
import RecordFlow.Report

/-!
# Export — what the file of all errors says

The file that is written is read as a document again (`Report.document?_exported`), whatever
characters the messages and the names of the sources have.  It has an object for each entry in their
order (`Report.TellsEntry`), and a summary that is counted apart from them and comes to the same
(`Report.Tallies`).
-/

namespace RecordFlow

theorem Category.label_injective : Function.Injective Category.label := by
  intro a b h
  cases a <;> cases b <;> first | rfl | exact absurd h (by decide)

theorem Severity.label_injective : Function.Injective Severity.label := by
  intro a b h
  cases a <;> cases b <;> first | rfl | exact absurd h (by decide)

namespace Report

open Collector (empty sinceClear kept?)

/-! ## What a document tells -/

/-- Whether a value tells of an entry what there is to tell, and tells it once; a place is told if
and only if the entry has a record. -/
structure TellsEntry (e : Entry) (item : Json) : Prop where
  category : item.values "category" = [.string e.category.label]
  severity : item.values "severity" = [.string e.severity.label]
  retryable : item.values "retryable" = [.bool e.retryable]
  message : item.values "message" = [.string e.error.message]
  file : item.values "file" = (e.record.map fun r => .string r.source).toList
  line : item.values "line" = (e.record.map fun r => .natural r.line).toList

/-- Whether the values found for a key count some entries by their kinds, `group` being the entries
of a kind: there is one object with the kinds that occur, each once and as they were first seen. -/
structure Tallies {α : Type} [DecidableEq α] (label : α → String) (kinds : List α)
    (group : α → List Entry) (found : List Json) (listed : List α) : Prop where
  counts : found = [.object (listed.map fun k => (label k, .natural (group k).length))]
  once : (listed.map label).Nodup
  occurs : ∀ k, k ∈ listed ↔ k ∈ kinds
  ordered : listed.Pairwise fun k l => kinds.idxOf k < kinds.idxOf l
  sum : (listed.map fun k => (group k).length).sum = kinds.length

/-! ## Entries -/

theorem tellsEntry_entryJson (e : Entry) : TellsEntry e (entryJson e) := by
  cases hrecord : e.record with
  | none =>
    constructor <;> simp [entryJson, Json.values, hrecord]
  | some r =>
    constructor <;> simp [entryJson, Json.values, hrecord]

theorem isWhole_entryJson (e : Entry) : (entryJson e).isWhole = true := by
  cases hrecord : e.record with
  | none => simp [entryJson, Json.isWhole, Json.wholeMembers, Json.wholeMember, hrecord]
  | some r => simp [entryJson, Json.isWhole, Json.wholeMembers, Json.wholeMember, hrecord]

/-! ## Counts -/

section Counts

variable {α : Type} (label : α → String)

/-- The counts of some kinds as an object. -/
def countsJson (counts : List (α × Nat)) : Json :=
  .object (counts.map fun (k, n) => (label k, .natural n))

theorem isWhole_countsJson (counts : List (α × Nat)) :
    (countsJson label counts).isWhole = true := by
  refine (Json.wholeMembers_iff _).2 fun member hmember => ?_
  rcases List.mem_map.1 hmember with ⟨⟨k, n⟩, _, rfl⟩
  rfl

/-- The counts of the kinds of entries are the sizes of their groups. -/
theorem tallies_countKinds [DecidableEq α] {label : α → String} (hlabel : Function.Injective label)
    {kinds : List α} {group : α → List Entry}
    (hgroup : ∀ k, (group k).length = kinds.count k) :
    Tallies label kinds group [countsJson label (countKinds kinds)]
      ((countKinds kinds).map Prod.fst) := by
  have hcount : ∀ count ∈ countKinds kinds, (group count.1).length = count.2 := by
    rintro ⟨k, n⟩ hmem
    rw [hgroup, ((mem_countKinds_iff kinds k n).1 hmem).2]
  constructor
  case counts =>
    rw [countsJson, List.map_map]
    refine congrArg (fun members => [Json.object members])
      (List.map_congr_left fun count hmem => ?_)
    rw [Function.comp_apply, hcount count hmem]
  case once => exact (nodup_keys_countKinds kinds).map hlabel
  case occurs =>
    intro k
    rw [List.mem_map]
    constructor
    · rintro ⟨⟨_, n⟩, hmem, rfl⟩
      exact ((mem_countKinds_iff kinds _ n).1 hmem).1
    · intro hmem
      exact ⟨(k, kinds.count k), (mem_countKinds_iff kinds k _).2 ⟨hmem, rfl⟩, rfl⟩
  case ordered => exact pairwise_keys_countKinds kinds
  case sum =>
    rw [List.map_map, ← sum_countKinds kinds]
    exact congrArg List.sum (List.map_congr_left hcount)

end Counts

theorem length_group {α : Type} [DecidableEq α] (kind : Entry → α) (entries : List Entry) (k : α) :
    (entries.filter fun e => kind e = k).length = (entries.map kind).count k := by
  rw [List.count, List.countP_map, List.countP_eq_length_filter]
  rfl

/-! ## The document -/

/-- The summary as it is read, with what the text of the rate says. -/
def summaryTold (c : Collector) : Json :=
  .object
    [("total_errors", .natural c.count), ("total_processed", .natural c.processed),
     ("error_rate", Json.numberTold c.rate),
     ("by_category", countsJson Category.label (countKinds (c.entries.map Entry.category))),
     ("by_severity", countsJson Severity.label (countKinds (c.entries.map Entry.severity))),
     ("retryable_errors", .natural (c.entries.countP Entry.retryable))]

theorem told_json (c : Collector) :
    (json c).told =
      .object [("summary", summaryTold c), ("errors", .array (c.entries.map entryJson))] := by
  have hitems : Json.toldItems (c.entries.map entryJson) = c.entries.map entryJson := by
    refine Json.toldItems_of_wholeItems _ ((Json.wholeItems_iff _).2 fun item hitem => ?_)
    rcases List.mem_map.1 hitem with ⟨e, _, rfl⟩
    exact isWhole_entryJson e
  have hcategories := Json.told_of_isWhole _
    (isWhole_countsJson Category.label (countKinds (c.entries.map Entry.category)))
  have hseverities := Json.told_of_isWhole _
    (isWhole_countsJson Severity.label (countKinds (c.entries.map Entry.severity)))
  have hsummary : c.counts.toJson.told = summaryTold c := by
    show Json.told (.object [_, _, _,
      ("by_category", countsJson Category.label (countKinds (c.entries.map Entry.category))),
      ("by_severity", countsJson Severity.label (countKinds (c.entries.map Entry.severity))),
      _]) = _
    simp only [Json.told, Json.toldMembers, Json.toldMember, hcategories, hseverities]
    rfl
  simp only [json, Json.told, Json.toldMembers, Json.toldMember, hitems, hsummary]

/-- What is written for a collector is read as a document. -/
theorem document?_exported (c : Collector) : Json.document? (exported c) = some (json c).told := by
  have hspace : ∀ ch ∈ ['\n'], Json.isSpace ch = true := List.forall_mem_singleton.2 rfl
  exact Json.document?_pretty (json c) hspace

/-- The file of all errors is faithful.  Whatever was done to the collector, the file that is
written holds a text, and nothing but the right to read the file keeps that text from being read; it
is read as a document.  It has an object for each error that was taken in since the
collector was cleared, in their order, and a summary that says how many objects there are, how many
of each category and of each severity, and how many of them are retryable. -/
theorem export_tells_entries (tolerance : Tolerance) (ops : List Collector.Operation)
    {files after : Files} {p : Path}
    (hwrite : write ((empty tolerance).performAll ops) files p = .ok after) :
    let c := (empty tolerance).performAll ops
    let entries := (sinceClear ((empty tolerance).transcript ops)).filterMap kept?
    ∃ text document summary items,
      after.bytes? p = some (Utf8.encode text) ∧
        (after.readText p = .ok text ∨ after.readText p = .error .denied) ∧
        Json.document? text = some document ∧
        document.values "summary" = [summary] ∧ document.values "errors" = [.array items] ∧
        List.Forall₂ TellsEntry entries items ∧
        summary.values "total_errors" = [.natural items.length] ∧
        (∃ listed, Tallies Category.label (entries.map Entry.category) c.ofCategory
          (summary.values "by_category") listed) ∧
        (∃ listed, Tallies Severity.label (entries.map Entry.severity) c.ofSeverity
          (summary.values "by_severity") listed) ∧
        summary.values "retryable_errors" = [.natural (entries.countP Entry.retryable)] := by
  intro c entries
  have hentries : c.entries = entries := Collector.entries_eq_kept tolerance ops
  -- the only step of the export that can fail is the write
  have hwritten : files.write p (Utf8.encode (exported c)) = .ok after := by
    unfold write at hwrite
    split at hwrite
    case h_1 after' hafter => rw [← Except.ok.inj hwrite, hafter]
    case h_2 => cases hwrite
  have hdocument : Json.document? (exported c) =
      some (.object [("summary", summaryTold c), ("errors", .array (c.entries.map entryJson))]) :=
    (document?_exported c).trans (congrArg some (told_json c))
  have hcategories := tallies_countKinds Category.label_injective
    fun k => length_group Entry.category c.entries k
  have hseverities := tallies_countKinds Severity.label_injective
    fun k => length_group Entry.severity c.entries k
  rw [← hentries]
  refine ⟨exported c, _, summaryTold c, c.entries.map entryJson,
    Files.bytes?_write_self hwritten, Files.readText_write_self hwritten, hdocument, rfl, rfl, ?_,
    ?_, ⟨_, hcategories⟩, ⟨_, hseverities⟩, rfl⟩
  · exact List.forall₂_map_right_iff.2 (List.forall₂_same.2 fun e _ => tellsEntry_entryJson e)
  · rw [List.length_map, Collector.length_entries]
    rfl

/-- A collector without a limit and without a threshold. -/
def boundless : Tolerance := ⟨0, .zero, false⟩

/-- Errors whose texts have marks, line breaks and control characters in them, the second of which
is put into a category that it would not have by itself. -/
def awkwardOperations : List Collector.Operation :=
  [.add (.processing "a \"b\"\n\\c\x01") (some ⟨2, "pa\trt, \"one\".csv", ["x"], none⟩) ⟨1, 0⟩,
    .addAs .io (.validation "name" "\r\n" "too long") none ⟨2, 0⟩]

/-- A working directory without files. -/
def noFiles : Files := ⟨.directory [("work", .directory [])], ["work"]⟩

/-- Both errors are told, and the second one as one of input and output that is of low severity. -/
theorem export_tells_awkward :
    ∃ after text document summary items,
      write ((empty boundless).performAll awkwardOperations) noFiles ⟨"errors.json"⟩ = .ok after ∧
        after.readText ⟨"errors.json"⟩ = .ok text ∧ Json.document? text = some document ∧
        document.values "errors" = [.array items] ∧
        List.Forall₂ TellsEntry
          [⟨.processing "a \"b\"\n\\c\x01", some ⟨2, "pa\trt, \"one\".csv", ["x"], none⟩, ⟨1, 0⟩,
              .processing, .medium, false⟩,
            ⟨.validation "name" "\r\n" "too long", none, ⟨2, 0⟩, .io, .low, false⟩] items ∧
        document.values "summary" = [summary] ∧
        summary.values "total_errors" = [.natural items.length] ∧
        summary.values "retryable_errors" = [.natural 0] := by
  have hwrite : write ((empty boundless).performAll awkwardOperations) noFiles ⟨"errors.json"⟩ =
      .ok ⟨.directory [("work", .directory [("errors.json", .file
        (Utf8.encode (exported ((empty boundless).performAll awkwardOperations))))])],
        ["work"]⟩ := by
    rfl
  rcases export_tells_entries boundless awkwardOperations hwrite with
    ⟨text, document, summary, items, _, hread | hdenied, hdocument, hsummary, herrors, htells,
      htotal, _, _, hretryable⟩
  · exact ⟨_, text, document, summary, items, hwrite, hread, hdocument, herrors, htells, hsummary,
      htotal, hretryable⟩
  · -- a file that is new may be read
    have hopen : ∀ bytes, (Files.mk (.directory [("work", .directory
        [("errors.json", .file bytes)])]) ["work"]).read ⟨"errors.json"⟩ = .ok bytes :=
      fun _ => rfl
    have hread : ∀ text', (Files.mk (.directory [("work", .directory
        [("errors.json", .file (Utf8.encode text'))])]) ["work"]).readText ⟨"errors.json"⟩ =
          .ok text' := by
      intro text'
      simp only [Files.readText, hopen, Utf8.decode_encode, bind, Except.bind]
      rfl
    have habsurd := (hread _).symm.trans hdenied
    cases habsurd

end Report
end RecordFlow
