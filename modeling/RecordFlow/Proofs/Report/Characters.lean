import RecordFlow.Proofs.Source.Contrast
import RecordFlow.Proofs.Source.Names
import RecordFlow.Report

/-!
# Characters — where the text of an error takes its characters from

An error is shown with the name and the line of its source, fixed words, and whatever data it
carries.  Fixed words, numbers and the names of accepted columns have no character that ends a line.
So a line of an error is broken only by the name of its source or by the data: of all that a source
can report, that is a cell of the first row that is refused as the name of a column
(`Source.Reports.showsCell`).
-/

namespace RecordFlow

/-- The characters that end a line. -/
def lineBreaks : List Char := ['\n', '\x0b', '\x0c', '\r', '\u0085', '\u2028', '\u2029']

/-- Whether a text stays on one line. -/
def isOneLine (text : String) : Bool := text.toList.all fun c => !lineBreaks.contains c

/-- Whether a text is without a character. -/
def Lacks (c : Char) (text : String) : Prop := c ∉ text.toList

section Lacks

variable {c : Char} {a b : String}

theorem lacks_append_iff : Lacks c (a ++ b) ↔ Lacks c a ∧ Lacks c b := by
  simp [Lacks]

theorem Lacks.append (ha : Lacks c a) (hb : Lacks c b) : Lacks c (a ++ b) :=
  lacks_append_iff.2 ⟨ha, hb⟩

theorem Lacks.intercalate {texts : List String} (ha : Lacks c a)
    (h : ∀ text ∈ texts, Lacks c text) : Lacks c (String.intercalate a texts) := by
  rw [Lacks, String.toList_intercalate]
  induction texts with
  | nil => simp
  | cons first rest ih =>
    have hfirst : c ∉ first.toList := h first List.mem_cons_self
    have hrest := ih fun text htext => h text (List.mem_cons_of_mem _ htext)
    cases rest with
    | nil => simpa using hfirst
    | cons second rest =>
      rw [List.map_cons, List.map_cons, List.intercalate_cons_cons]
      simp only [List.mem_append, not_or]
      exact ⟨⟨hfirst, ha⟩, hrest⟩

theorem lacks_of_isOneLine (hc : c ∈ lineBreaks) (h : isOneLine a = true) : Lacks c a := by
  intro hmem
  have hplain := List.all_eq_true.1 h c hmem
  rw [List.contains_iff_mem.2 hc] at hplain
  cases hplain

/-- Fixed words stay on one line. -/
theorem lacks_words (hc : c ∈ lineBreaks) {cs : List Char}
    (h : (cs.all fun c => !lineBreaks.contains c) = true) : Lacks c (String.ofList cs) := by
  refine lacks_of_isOneLine hc ?_
  rw [isOneLine, String.toList_ofList]
  exact h

theorem lacks_nat (hc : c ∈ lineBreaks) (n : Nat) : Lacks c (toString n) := by
  have hbreaks : (lineBreaks.all fun c => !c.isDigit) = true := by decide
  have hplain := List.all_eq_true.1 hbreaks c hc
  intro hmem
  rw [Nat.toString_eq_repr, Nat.repr_eq_ofList_toDigits, String.toList_ofList] at hmem
  have hdigit : c.isDigit = true := Nat.isDigit_of_mem_toDigits (by decide) (by decide) hmem
  rw [hdigit] at hplain
  cases hplain

/-- No character of an accepted name ends a line. -/
theorem lacks_of_proper (hc : c ∈ lineBreaks) {names : List String} (h : Header.Proper names)
    {name : String} (hname : name ∈ names) : Lacks c name := by
  have hbreaks : (lineBreaks.all fun c => !Header.isNameChar c) = true := by decide +kernel
  have hplain := List.all_eq_true.1 hbreaks c hc
  intro hmem
  have hisName : Header.isName name = true := (Header.isName_iff name).2 (h.plain name hname)
  rw [List.all_eq_true.1 hisName c hmem] at hplain
  cases hplain

end Lacks

/-! ## Names of sources -/

/-- The name of a source has its characters from the path. -/
theorem Source.lacks_of_names {c : Char} {paths : List Path} (h : ∀ p ∈ paths, Lacks c p.text)
    {name : String} (hname : name ∈ names paths) : Lacks c name := by
  rcases List.mem_map.1 hname with ⟨p, hp, rfl⟩
  have hshort : Lacks c (shortName p) := by
    cases hfile : p.fileName? with
    | none =>
      rw [shortName, hfile, Option.getD_none]
      exact h p hp
    | some file =>
      rw [shortName_of_fileName? hfile]
      rcases List.mem_map.1 (List.mem_of_getLast? (Path.fileName?_eq_some_iff.1 hfile).1) with
        ⟨piece, hpiece, rfl⟩
      intro hmem
      rw [String.toList_ofList] at hmem
      exact h p hp (Split.mem_of_mem (List.mem_filter.1 hpiece).1 hmem)
  split
  · exact h p hp
  · exact hshort

/-! ## Messages -/

section Messages

variable {c : Char} {operation name : String} {line : Nat}

namespace FlowError

theorem lacks_contextLabel (hc : c ∈ lineBreaks) (hoperation : Lacks c operation)
    (hname : Lacks c name) : Lacks c (contextLabel operation name line) := by
  have hcolon : Lacks c ":" := lacks_words hc (by decide)
  have hgap : Lacks c ": " := lacks_words hc (by decide)
  have hoperationGap := hoperation.append hgap
  unfold contextLabel
  split
  · exact (((hoperationGap.append hname).append hcolon).append (lacks_nat hc line)).append hgap
  · split
    · exact (hoperationGap.append hname).append hgap
    · exact hoperationGap

/-- A layer of context adds the operation and the source to a message. -/
theorem lacks_message_context (hc : c ∈ lineBreaks) (hoperation : Lacks c operation)
    (hname : Lacks c name) {cause : FlowError} :
    Lacks c (FlowError.context operation name line cause).message ↔ Lacks c cause.message := by
  have hlabel : Lacks c (contextLabel operation name line) :=
    lacks_contextLabel hc hoperation hname
  exact lacks_append_iff.trans (and_iff_right hlabel)

theorem lacks_invalidRecord (hc : c ∈ lineBreaks) {text : String} (h : Lacks c text) :
    Lacks c (FlowError.invalidRecord text).message := by
  have hlabel : Lacks c "invalid record: " := lacks_words hc (by decide)
  exact hlabel.append h

theorem lacks_io (hc : c ∈ lineBreaks) {text : String} (h : Lacks c text) :
    Lacks c (FlowError.io text).message := by
  have hlabel : Lacks c "I/O error: " := lacks_words hc (by decide)
  exact hlabel.append h

/-- Two headers are shown by their names. -/
theorem lacks_headerMismatch (hc : c ∈ lineBreaks) {expected actual : List String}
    (hexpected : Header.Proper expected) (hactual : Header.Proper actual) :
    Lacks c (FlowError.headerMismatch expected actual).message := by
  have hcomma : Lacks c "," := lacks_words hc (by decide)
  have hfirst : Lacks c "header mismatch: expected [" := lacks_words hc (by decide)
  have hsecond : Lacks c "], got [" := lacks_words hc (by decide)
  have hend : Lacks c "]" := lacks_words hc (by decide)
  have hnames : ∀ names : List String, Header.Proper names →
      Lacks c (String.intercalate "," names) :=
    fun _ h => hcomma.intercalate fun _ hname => lacks_of_proper hc h hname
  exact (((hfirst.append (hnames expected hexpected)).append hsecond).append
    (hnames actual hactual)).append hend

end FlowError

/-! ### Records -/

theorem Record.lacks_place (hc : c ∈ lineBreaks) {r : Record} (hsource : Lacks c r.source) :
    Lacks c r.place := by
  have hline : Lacks c "(line " := lacks_words hc (by decide)
  have hin : Lacks c " in " := lacks_words hc (by decide)
  have hend : Lacks c ")" := lacks_words hc (by decide)
  exact (((hline.append (lacks_nat hc r.line)).append hin).append hsource).append hend

/-- How many fields a record has and how many it should have, behind some words. -/
theorem Record.lacks_numbers (hc : c ∈ lineBreaks) {r : Record} (hsource : Lacks c r.source)
    {words : String} (hwords : Lacks c words) :
    Lacks c (words ++ toString r.columns.length ++ " fields, got " ++ toString r.fields.length ++
      " " ++ r.place) := by
  have hgot : Lacks c " fields, got " := lacks_words hc (by decide)
  have hgap : Lacks c " " := lacks_words hc (by decide)
  have hexpected := hwords.append (lacks_nat hc r.columns.length)
  have hactual := (hexpected.append hgot).append (lacks_nat hc r.fields.length)
  exact (hactual.append hgap).append (r.lacks_place hc hsource)

/-- A malformed record is told by its place and the numbers of its fields. -/
theorem Record.lacks_of_validate (hc : c ∈ lineBreaks) {r : Record} (hsource : Lacks c r.source)
    {error : FlowError} (h : r.validate = .error error) : Lacks c error.message := by
  unfold Record.validate at h
  split at h
  · cases h
    have hnone : Lacks c "record has no data " := lacks_words hc (by decide)
    exact FlowError.lacks_invalidRecord hc (hnone.append (r.lacks_place hc hsource))
  · simp only at h
    split at h
    · cases h
      have hmismatch : Lacks c "field count mismatch: expected " := lacks_words hc (by decide)
      exact FlowError.lacks_invalidRecord hc (r.lacks_numbers hc hsource hmismatch)
    · cases h

/-! ### Sources -/

theorem Header.message_columnError (column : Nat) (cell : String) (rule : Header.Fault) :
    (Header.columnError column cell rule).message =
      "validation error: field=" ++ ("column " ++ toString column) ++ ", value=" ++ cell ++
        ", message=" ++ rule.message := rfl

/-- A name that is refused is shown with its column and the rule that it breaks. -/
theorem Header.lacks_columnError (hc : c ∈ lineBreaks) {column : Nat} {cell : String}
    {rule : Header.Fault} :
    Lacks c (Header.columnError column cell rule).message ↔ Lacks c cell := by
  have hfield : Lacks c "validation error: field=" := lacks_words hc (by decide)
  have hcolumn : Lacks c "column " := lacks_words hc (by decide)
  have hvalue : Lacks c ", value=" := lacks_words hc (by decide)
  have hreason : Lacks c ", message=" := lacks_words hc (by decide)
  have hrule : Lacks c rule.message := by
    cases rule <;> exact lacks_words hc (by decide)
  simp only [message_columnError, lacks_append_iff, hfield, hcolumn, lacks_nat hc column, hvalue,
    hreason, hrule, true_and, and_true]

theorem Csv.lacks_notText (hc : c ∈ lineBreaks) (position : Csv.Position) (field good : Nat) :
    Lacks c (Csv.notText position field good).message := by
  have hmessage : (Csv.notText position field good).message =
      "invalid CSV format: " ++ ("CSV parse error: record " ++ toString position.index ++
        " (line " ++ toString position.line ++ ", field: " ++ toString field ++ ", byte: " ++
        toString position.byte ++ "): " ++ ("invalid utf-8: invalid UTF-8 in field " ++
        toString field ++ " near byte index " ++ toString good)) := rfl
  have hlabel : Lacks c "invalid CSV format: " := lacks_words hc (by decide)
  have hrecord : Lacks c "CSV parse error: record " := lacks_words hc (by decide)
  have hline : Lacks c " (line " := lacks_words hc (by decide)
  have hfield : Lacks c ", field: " := lacks_words hc (by decide)
  have hbyte : Lacks c ", byte: " := lacks_words hc (by decide)
  have hend : Lacks c "): " := lacks_words hc (by decide)
  have hinvalid : Lacks c "invalid utf-8: invalid UTF-8 in field " :=
    lacks_words hc (by decide)
  have hnear : Lacks c " near byte index " := lacks_words hc (by decide)
  simp only [hmessage, lacks_append_iff, hlabel, hrecord, hline, hfield, hbyte, hend, hinvalid,
    hnear, lacks_nat hc, and_self]

theorem SystemError.lacks_message (hc : c ∈ lineBreaks) (e : SystemError) : Lacks c e.message := by
  cases e <;> rw [message] <;> exact lacks_words hc (by decide)

theorem Gzip.Fault.lacks_message (hc : c ∈ lineBreaks) (f : Gzip.Fault) : Lacks c f.message := by
  cases f <;> rw [message] <;> exact lacks_words hc (by decide)

theorem Zstandard.Fault.lacks_message (hc : c ∈ lineBreaks) (f : Zstandard.Fault) :
    Lacks c f.message := by
  cases f <;> rw [message] <;> exact lacks_words hc (by decide)

namespace Source

variable {options : Options} {files : Files} {p : Path}

/-- A source that cannot be read is told by its path at most. -/
theorem lacks_of_ofPath (hc : c ∈ lineBreaks) (hp : Lacks c p.text)
    {demand : Compression.Demand} {cause : FlowError}
    (h : Input.ofPath demand files p = .error cause) : Lacks c cause.message := by
  rcases ofPath_error_cases h with rfl | rfl | ⟨e, rfl⟩
  · have harchive :
        Lacks c "ZIP archives are not supported, only gzip and zstd sources can be streamed " :=
      lacks_words hc (by decide)
    have hextract : Lacks c "(extract first: unzip " := lacks_words hc (by decide)
    have hend : Lacks c ")" := lacks_words hc (by decide)
    exact FlowError.lacks_io hc (((harchive.append hextract).append hp).append hend)
  · exact lacks_words hc (by decide)
  · unfold systemError FlowError.ofSystem
    split
    · exact lacks_words hc (by decide)
    · exact FlowError.lacks_io hc (e.lacks_message hc)

/-- A text breaks off without showing anything of it. -/
theorem lacks_of_fault (hc : c ∈ lineBreaks) {tokens : Csv.Tokens}
    (h : tokensAt options files p = .ok tokens) {fault : FlowError}
    (hfault : tokens.fault = some fault) : Lacks c fault.message := by
  rcases fault_tokensAt_cases h hfault with ⟨f, rfl⟩ | ⟨f, rfl⟩ | ⟨position, field, good, rfl⟩
  · exact FlowError.lacks_io hc (f.lacks_message hc)
  · exact FlowError.lacks_io hc (f.lacks_message hc)
  · exact Csv.lacks_notText hc position field good

/-- An error that shows a character of a cell: the cell stands in the first row of the source, which
has to be a header and is refused for it. -/
def ShowsCell (options : Options) (files : Files) (name : String) (p : Path) (c : Char)
    (error : RecordError) : Prop :=
  options.hasHeader = true ∧ ∃ first rows fault column cell rule,
    tokensAt options files p = .ok ⟨first :: rows, fault⟩ ∧
    Header.validate first.fields = .error (Header.columnError column cell rule) ∧
    cell ∈ first.fields ∧ c ∈ cell.toList ∧
    error = ⟨.context "validate_header" name first.line (Header.columnError column cell rule), none⟩

/-- The cell is part of the message. -/
theorem ShowsCell.mem_message {error : RecordError}
    (h : ShowsCell options files name p c error) : c ∈ error.error.message.toList := by
  rcases h with ⟨_, first, _, _, column, cell, rule, _, _, _, hmem, rfl⟩
  have hcause : c ∈ (Header.columnError column cell rule).message.toList := by
    simp only [Header.message_columnError, String.toList_append, List.mem_append]
    exact .inl (.inl (.inr hmem))
  have hmessage : (FlowError.context "validate_header" name first.line
      (Header.columnError column cell rule)).message =
      FlowError.contextLabel "validate_header" name first.line ++
        (Header.columnError column cell rule).message := rfl
  rw [hmessage, String.toList_append]
  exact List.mem_append_right _ hcause

/-- What a source reports shows a character that ends a line in a refused cell, and nowhere else. -/
theorem Reports.showsCell (hc : c ∈ lineBreaks) (hname : Lacks c name) (hp : Lacks c p.text)
    {expected : Option (List String)}
    (hexpected : ∀ header, expected = some header → Header.validate header = .ok ())
    {error : RecordError} (h : Reports options files name p expected error)
    (hmem : c ∈ error.error.message.toList) : ShowsCell options files name p c error := by
  have hread : Lacks c "read" := lacks_words hc (by decide)
  have hreadHeader : Lacks c "read_header" := lacks_words hc (by decide)
  have hreadRecord : Lacks c "read_record" := lacks_words hc (by decide)
  have hvalidate : Lacks c "validate_header" := lacks_words hc (by decide)
  -- the character is in the cause, whatever the operation
  have hcause : ∀ {operation line cause}, Lacks c operation →
      c ∈ (FlowError.context operation name line cause).message.toList →
      ¬ Lacks c cause.message := by
    intro operation line cause hoperation hmem hlacks
    exact (FlowError.lacks_message_context hc hoperation hname).2 hlacks hmem
  cases h with
  | unread hinput =>
    have hlacks := lacks_of_ofPath hc hp hinput
    exact absurd hlacks (hcause hread hmem)
  | headless =>
    have hlacks : Lacks c FlowError.emptyFile.message := lacks_words hc (by decide)
    exact absurd hlacks (hcause hreadHeader hmem)
  | breaksOff htokens hfault hoperation =>
    have hlacks := lacks_of_fault hc htokens hfault
    rcases hoperation with rfl | rfl
    · exact absurd hlacks (hcause hreadHeader hmem)
    · exact absurd hlacks (hcause hreadRecord hmem)
  | @misnamed first rows fault cause hheader htokens hrefused =>
    rcases exists_columnError htokens hrefused with ⟨column, cell, rule, hcell, rfl⟩
    have hshown : c ∈ cell.toList := by
      by_contra hlacks
      exact hcause hvalidate hmem ((Header.lacks_columnError hc).2 hlacks)
    exact ⟨hheader, first, rows, fault, column, cell, rule, htokens, hrefused, hcell, hshown, rfl⟩
  | @deviates header actual hheader hactual _ =>
    have hproper : Header.Proper header := (Header.validate_eq_ok_iff _).1 (hexpected _ hheader)
    have hactualProper : Header.Proper actual :=
      (Header.validate_eq_ok_iff _).1 (validate_of_acceptedHeader? hactual)
    have hlacks := FlowError.lacks_headerMismatch hc hproper hactualProper
    exact absurd hlacks (hcause hvalidate hmem)
  | malformed hsource hinvalid _ =>
    subst hsource
    have hlacks := Record.lacks_of_validate hc hname hinvalid
    exact absurd hlacks (hcause hreadRecord hmem)

end Source

end Messages

end RecordFlow
