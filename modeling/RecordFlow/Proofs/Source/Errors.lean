import RecordFlow.Proofs.Source.Isolation
import RecordFlow.Proofs.Source.Uncompared
import RecordFlow.Proofs.Source.Verdicts

/-!
# Errors — what a source can report

The reader reports an error on a source for one of six reasons: the source cannot be read, it has no
first row, its text breaks off, its header breaks a rule for names, its header is another one than
that of an earlier source, or one of its rows is malformed.  That is so at any time and under any
cancellation, whatever the order in which the sources are read.

* `Reports` has one constructor for each reason, with the data that the error tells,
* `reports_of_mem_emissions` is about one source,
* `Session.reports_of_mem_emitted` is about a session of sources.
-/

namespace RecordFlow
namespace Source

variable {options : Options} {files : Files} {name : String} {p : Path}
  {expected : Option (List String)}

/-- An error on the source at a path that is compared with the header `expected`, and the record
that the error rejects. -/
inductive Reports (options : Options) (files : Files) (name : String) (p : Path)
    (expected : Option (List String)) : RecordError → Prop where
  | unread {cause : FlowError} : Input.ofPath .portions files p = .error cause →
      Reports options files name p expected ⟨.context "read" name 0 cause, none⟩
  | headless : tokensAt options files p = .ok ⟨[], none⟩ →
      Reports options files name p expected ⟨.context "read_header" name 0 .emptyFile, none⟩
  | breaksOff {tokens : Csv.Tokens} {operation : String} {line : Nat} {fault : FlowError} :
      tokensAt options files p = .ok tokens → tokens.fault = some fault →
      operation = "read_header" ∨ operation = "read_record" →
      Reports options files name p expected ⟨.context operation name line fault, none⟩
  | misnamed {first : Csv.Row} {rows : List Csv.Row} {fault : Option FlowError}
      {cause : FlowError} : options.hasHeader = true →
      tokensAt options files p = .ok ⟨first :: rows, fault⟩ →
      Header.validate first.fields = .error cause →
      Reports options files name p expected
        ⟨.context "validate_header" name first.line cause, none⟩
  | deviates {header actual : List String} :
      expected = some header → acceptedHeader? options files p = some actual → header ≠ actual →
      Reports options files name p expected
        ⟨.context "validate_header" name 0 (.headerMismatch header actual), none⟩
  | malformed {r : Record} {cause : FlowError} {rejected : Option Record} :
      r.source = name → r.validate = .error cause → rejected = none ∨ rejected = some r →
      Reports options files name p expected
        ⟨.context "read_record" name r.line cause, rejected⟩

/-- What is reported without a comparison is reported with one. -/
theorem Reports.compared {e : RecordError} (h : Reports options files name p none e) :
    Reports options files name p expected e := by
  cases h with
  | unread hinput => exact .unread hinput
  | headless htokens => exact .headless htokens
  | breaksOff htokens hfault hoperation => exact .breaksOff htokens hfault hoperation
  | misnamed hheader htokens hrefused => exact .misnamed hheader htokens hrefused
  | deviates hexpected _ _ => cases hexpected
  | malformed hsource hinvalid hrejected => exact .malformed hsource hinvalid hrejected

/-! ## Causes -/

/-- A source cannot be read because it is an archive, or has no bytes, or for a reason of the
system. -/
theorem ofPath_error_cases {demand : Compression.Demand} {cause : FlowError}
    (h : Input.ofPath demand files p = .error cause) :
    cause = archiveError p ∨ cause = .emptyFile ∨ ∃ e, cause = systemError e := by
  unfold Input.ofPath at h
  split at h
  · cases h
    exact .inl rfl
  · split at h
    · cases h
      exact .inr (.inr ⟨_, rfl⟩)
    · cases h
      exact .inr (.inl rfl)
    · cases h

/-- The fault behind portions is one that a request came to. -/
theorem exists_read_of_fault {σ : Type} {read : Nat → σ → Except String (List UInt8 × σ)}
    {fuel : Nat} {s : σ} {text : String}
    (h : (Compression.readPortions read fuel s).fault = some text) :
    ∃ n s, read n s = .error text := by
  induction fuel generalizing s with
  | zero => cases h
  | succ fuel ih =>
    rw [Compression.readPortions] at h
    split at h
    case h_1 hread =>
      cases h
      exact ⟨_, _, hread⟩
    case h_2 => cases h
    case h_3 => exact ih h

theorem exists_of_mapError {α ε : Type} {f : ε → String} {x : Except ε α} {text : String}
    (h : x.mapError f = .error text) : ∃ e, text = f e := by
  cases x with
  | error e =>
    cases h
    exact ⟨e, rfl⟩
  | ok _ => cases h

/-- What a text that is read in portions breaks off with is a fault of its compression. -/
theorem fault_ofPath_cases {input : Input} (h : Input.ofPath .portions files p = .ok input)
    {fault : FlowError} (hfault : input.fault = some fault) :
    (∃ f : Gzip.Fault, fault = .io f.message) ∨ ∃ f : Zstandard.Fault, fault = .io f.message := by
  unfold Input.ofPath at h
  split at h
  case isTrue => cases h
  case isFalse =>
    split at h
    case h_1 => cases h
    case h_2 => cases h
    case h_3 =>
      cases h
      unfold Input.ofBytes at hfault
      simp only at hfault
      split at hfault
      case h_1 => cases hfault
      case h_2 =>
        rcases Option.map_eq_some_iff.1 hfault with ⟨text, htext, rfl⟩
        rcases exists_read_of_fault htext with ⟨_, _, hread⟩
        rcases exists_of_mapError hread with ⟨f, rfl⟩
        exact .inl ⟨f, rfl⟩
      case h_3 =>
        rcases Option.map_eq_some_iff.1 hfault with ⟨text, htext, rfl⟩
        rcases exists_read_of_fault htext with ⟨_, _, hread⟩
        rcases exists_of_mapError hread with ⟨f, rfl⟩
        exact .inr ⟨f, rfl⟩

/-- Rows break off with the fault behind the bytes, or before a row that is no text. -/
theorem fault_decodeRows_cases {ending : Option FlowError} {rows : List Csv.RawRow}
    {fault : FlowError} (h : (Csv.decodeRows ending rows).fault = some fault) :
    ending = some fault ∨ ∃ position field good, fault = Csv.notText position field good := by
  induction rows with
  | nil => exact .inl h
  | cons raw rest ih =>
    rw [Csv.decodeRows] at h
    cases hrow : Csv.decodeRow raw with
    | ok row =>
      rw [hrow] at h
      exact ih h
    | error e =>
      rw [hrow] at h
      cases h
      unfold Csv.decodeRow at hrow
      split at hrow
      · cases hrow
      · cases hrow
        exact .inr ⟨_, _, _, rfl⟩

theorem fault_tokenize_cases {delimiter : UInt8} {lead : Nat} {bytes : List UInt8}
    {ending : Option FlowError} {fault : FlowError}
    (h : (Csv.tokenize delimiter lead bytes ending).fault = some fault) :
    ending = some fault ∨ ∃ position field good, fault = Csv.notText position field good := by
  unfold Csv.tokenize at h
  split at h
  · cases h
  · exact fault_decodeRows_cases h

/-- What the rows of a source break off with is a fault of its compression, or says that the next
row is no text. -/
theorem fault_tokensAt_cases {tokens : Csv.Tokens} (h : tokensAt options files p = .ok tokens)
    {fault : FlowError} (hfault : tokens.fault = some fault) :
    (∃ f : Gzip.Fault, fault = .io f.message) ∨ (∃ f : Zstandard.Fault, fault = .io f.message) ∨
      ∃ position field good, fault = Csv.notText position field good := by
  unfold tokensAt at h
  cases hinput : Input.ofPath .portions files p with
  | error e =>
    rw [hinput] at h
    cases h
  | ok input =>
    rw [hinput] at h
    cases h
    rcases fault_tokenize_cases hfault with hending | hrow
    · rcases fault_ofPath_cases hinput hending with hgzip | hzstandard
      · exact .inl hgzip
      · exact .inr (.inl hzstandard)
    · exact .inr (.inr hrow)

theorem exists_columnError {first : Csv.Row} {rows : List Csv.Row} {fault : Option FlowError}
    (htokens : tokensAt options files p = .ok ⟨first :: rows, fault⟩) {cause : FlowError}
    (h : Header.validate first.fields = .error cause) :
    ∃ column cell rule, cell ∈ first.fields ∧ cause = Header.columnError column cell rule :=
  Header.validate_eq_error (fields_ne_nil_of_tokensAt htokens List.mem_cons_self) h

/-! ## One source -/

theorem Opened.reports_of_mem_bodyFrom {o : Opened} {rows : List Csv.Row} {line : Nat}
    {e : Emission} {error : RecordError} (he : e ∈ o.bodyFrom options line rows)
    (herror : e.rejection? = some error) :
    (∃ line fault, o.fault = some fault ∧
      error = ⟨.context "read_record" o.name line fault, none⟩) ∨
    ∃ (r : Record) (cause : FlowError) (rejected : Option Record), r.source = o.name ∧
      r.validate = .error cause ∧ (rejected = none ∨ rejected = some r) ∧
      error = ⟨.context "read_record" o.name r.line cause, rejected⟩ := by
  induction rows generalizing line with
  | nil =>
    left
    rw [bodyFrom, faultAfter] at he
    cases hfault : o.fault with
    | none => simp [hfault] at he
    | some fault =>
      rw [hfault, List.mem_singleton] at he
      subst he
      cases herror
      exact ⟨_, fault, rfl, rfl⟩
  | cons row rest ih =>
    rw [bodyFrom] at he
    cases hvalid : Record.validate ⟨row.line, o.name, row.fields, o.header⟩ with
    | ok _ =>
      rw [hvalid] at he
      rcases List.mem_cons.1 he with rfl | he
      · cases herror
      · exact ih he
    | error cause =>
      -- a strict source ends with the row, any other one goes on behind it
      rw [hvalid] at he
      cases hstrict : options.strict with
      | true =>
        simp only [hstrict, if_true, List.mem_singleton] at he
        subst he
        cases herror
        exact .inr ⟨_, cause, none, rfl, hvalid, .inl rfl, rfl⟩
      | false =>
        simp only [hstrict, Bool.false_eq_true, if_false, List.mem_cons] at he
        rcases he with rfl | he
        · cases herror
          exact .inr ⟨_, cause, _, rfl, hvalid, .inr rfl, rfl⟩
        · exact ih he

theorem acceptedHeader?_of_tokensAt {tokens : Csv.Tokens}
    (h : tokensAt options files p = .ok tokens) :
    acceptedHeader? options files p = acceptedFirst? tokens.rows := by
  unfold tokensAt at h
  unfold acceptedHeader?
  cases hinput : Input.ofPath .portions files p with
  | error e =>
    rw [hinput] at h
    cases h
  | ok input =>
    rw [hinput] at h
    cases h
    rfl

theorem reports_of_mem_opened {tokens : Csv.Tokens} {header : Option (List String)}
    {rows : List Csv.Row} (htokens : tokensAt options files p = .ok tokens)
    (hheader : ∀ actual, header = some actual → acceptedHeader? options files p = some actual)
    {e : Emission} {error : RecordError}
    (he : e ∈ emissions options expected (.ok ⟨name, header, rows, tokens.fault⟩))
    (herror : e.rejection? = some error) : Reports options files name p expected error := by
  cases hmismatch : Opened.mismatch? expected ⟨name, header, rows, tokens.fault⟩ with
  | some cause =>
    rw [emissions_of_mismatch? hmismatch, List.mem_singleton] at he
    subst he
    cases herror
    unfold Opened.mismatch? at hmismatch
    split at hmismatch
    case h_1 header actual hactual =>
      split at hmismatch
      · cases hmismatch
      · cases hmismatch
        exact .deviates rfl (hheader actual hactual) ‹_›
    case h_2 => cases hmismatch
  | none =>
    rw [emissions_of_agreeing hmismatch] at he
    rcases Opened.reports_of_mem_bodyFrom he herror with
      ⟨line, fault, hfault, rfl⟩ | ⟨r, cause, rejected, hsource, hinvalid, hrejected, rfl⟩
    · exact .breaksOff htokens hfault (.inr rfl)
    · exact .malformed hsource hinvalid hrejected

/-- What a source reports, it reports for one of the reasons. -/
theorem reports_of_mem_emissions {e : Emission} {error : RecordError}
    (he : e ∈ emissions options expected (Opened.ofPath options files name p))
    (herror : e.rejection? = some error) : Reports options files name p expected error := by
  -- a source that does not open reports one failure
  have hfails : ∀ cause, Opened.ofPath options files name p = .error cause →
      error = ⟨cause, none⟩ := by
    intro cause hcause
    rw [hcause, emissions, List.mem_singleton] at he
    subst he
    cases herror
    rfl
  cases htokens : tokensAt options files p with
  | error cause =>
    rw [hfails _ (Opened.ofPath_of_error htokens)]
    unfold tokensAt at htokens
    cases hinput : Input.ofPath .portions files p with
    | error cause' =>
      rw [hinput] at htokens
      cases htokens
      exact .unread hinput
    | ok input =>
      rw [hinput] at htokens
      cases htokens
  | ok tokens =>
    have hopened : Opened.ofPath options files name p = Opened.ofTokens options name tokens :=
      Opened.ofPath_of_tokens htokens
    cases hheader : options.hasHeader with
    | false =>
      rw [hopened, (Behind.headerless hheader).ofTokens_eq name] at he
      exact reports_of_mem_opened htokens (fun _ hnone => by cases hnone) he herror
    | true =>
      rcases tokens with ⟨rows, fault⟩
      cases rows with
      | nil =>
        cases fault with
        | none =>
          rw [hfails (.context "read_header" name 0 .emptyFile)
            (by rw [hopened, Opened.ofTokens, if_pos hheader])]
          exact .headless htokens
        | some fault =>
          rw [hfails (.context "read_header" name 1 fault)
            (by rw [hopened, Opened.ofTokens, if_pos hheader])]
          exact .breaksOff htokens rfl (.inl rfl)
      | cons first rows =>
        cases hnames : Header.validate first.fields with
        | ok _ =>
          rw [hopened, (Behind.header hheader rfl hnames).ofTokens_eq name] at he
          refine reports_of_mem_opened htokens ?_ he herror
          rintro actual heq
          cases heq
          rw [acceptedHeader?_of_tokensAt htokens, acceptedFirst?, hnames]
        | error cause =>
          rw [hfails (.context "validate_header" name first.line cause)
            (by simp [hopened, Opened.ofTokens, hheader, hnames])]
          exact .misnamed hheader htokens hnames

/-! ## Sessions -/

/-- What a session reports on a source, it reports for one of the reasons; the header that the
source is compared with is the first one that an earlier source shares. -/
theorem Session.reports_of_mem_emitted {paths : List Path} {s : Session}
    (h : Reaches (ofSources options (openAll options files paths)) s) {i : Nat} {e : Emission}
    {error : RecordError} (he : (i, e) ∈ s.emitted) (herror : e.rejection? = some error) :
    ∃ name p, paths[i]? = some p ∧ (names paths)[i]? = some name ∧
      Reports options files name p
        (firstShared? options ((openAll options files paths).take i)) error := by
  have hi : i < (openAll options files paths).length := lt_of_mem_emitted h he
  have hsource := List.getElem?_eq_getElem hi
  rcases emittedBy_prefix_of_heard h hsource with ⟨expected, hexpected, hfront⟩
  have hmem := hfront.subset (mem_emittedBy.2 he)
  rcases openAll_cases hsource with ⟨name, p, hp, hname, hopened⟩
  rw [hopened] at hmem
  have hreports := reports_of_mem_emissions hmem herror
  refine ⟨name, p, hp, hname, ?_⟩
  rcases hexpected with rfl | rfl
  · exact hreports.compared
  · exact hreports

end Source
end RecordFlow
