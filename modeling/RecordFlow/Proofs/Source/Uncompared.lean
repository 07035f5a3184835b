import RecordFlow.Proofs.Csv
import RecordFlow.Proofs.Header
import RecordFlow.Proofs.Source.Rows

/-!
# Uncompared — sources that are read without the comparison of their headers

Without the comparison no source waits for another one, and none learns of the headers of the
others.  The rules for the names of columns are not part of the comparison: a source the first row
of which breaks one of them is refused all the same, and its rows are not read.

* `Opened.judgedRows` is what the rows behind a header come to by the number of their fields,
* `Uncompared` is what a source gives without the comparison,
* `mem_emissions_of_reaches` says that a source gives nothing else, also under cancellation,
* `name_rules_without_comparison` is all of it, for every list of sources.
-/

namespace RecordFlow

/-! ## Rules for names -/

/-- Names that are refused have one that breaks a rule. -/
theorem Header.validate_eq_error {names : List String} {error : FlowError} (hnames : names ≠ [])
    (h : validate names = .error error) :
    ∃ column name fault, name ∈ names ∧ error = columnError column name fault := by
  have hwalk : validate names = validateFrom 1 [] names := if_neg (by simpa using hnames)
  rw [hwalk] at h
  rcases validateFrom_eq_error_iff.1 h with ⟨before, name, after, fault, rfl, -, -, rfl⟩
  exact ⟨_, name, fault, List.mem_append_right _ List.mem_cons_self, rfl⟩

namespace Source

variable {options : Options} {files : Files} {name : String} {p : Path}

/-! ## Rows behind a header -/

namespace Opened

variable {o : Opened} {header : List String}

def fits (o : Opened) (row : Csv.Row) : Bool :=
  row.fields.length == (o.record row).columns.length

def misfit (o : Opened) (row : Csv.Row) : FlowError :=
  let expected := (o.record row).columns.length
  let actual := row.fields.length
  .context "read_record" o.name row.line
    (.invalidRecord
      (s!"field count mismatch: expected {expected} fields, got {actual} " ++ (o.record row).place))

/-- What a row comes to by the number of its fields. -/
def judged (o : Opened) (row : Csv.Row) : Emission :=
  if o.fits row then .record (o.record row) else .rejected (o.misfit row) (o.record row)

def lastFault (o : Opened) (line : Nat) (rows : List Csv.Row) : List Emission :=
  ((o.faultBehind? line rows).map .failure).toList

/-- What rows come to by the number of their fields: all of them, or up to the first that does not
fit if the source is strict. -/
def judgedFrom (options : Options) (o : Opened) (line : Nat) (rows : List Csv.Row) :
    List Emission :=
  if options.strict then
    (rows.takeWhile o.fits).map (fun row => .record (o.record row)) ++
      match rows.find? fun row => !o.fits row with
      | some row => [.failure (o.misfit row)]
      | none => o.lastFault line rows
  else rows.map o.judged ++ o.lastFault line rows

def judgedRows (options : Options) (o : Opened) : List Emission := o.judgedFrom options 1 o.rows

/-- The check of a record behind a header looks at the number of its fields. -/
theorem validate_record (hheader : o.header = some header) (hcolumns : header ≠ [])
    {row : Csv.Row} (hfields : row.fields ≠ []) :
    (o.record row).validate = .ok () ∧ o.fits row = true ∨
      (∃ e, (o.record row).validate = .error e ∧
        o.misfit row = .context "read_record" o.name row.line e) ∧ o.fits row = false := by
  have hfilled : (o.record row).fields.isEmpty = false := by simpa [record] using hfields
  have hpositive : 0 < (o.record row).columns.length := by
    simpa [record, Record.columns, hheader] using List.length_pos_of_ne_nil hcolumns
  by_cases hlength : row.fields.length = (o.record row).columns.length
  · left
    have hlength' : (o.record row).fields.length = (o.record row).columns.length := hlength
    refine ⟨?_, beq_iff_eq.2 hlength⟩
    unfold Record.validate
    rw [if_neg (by simp [hfilled])]
    exact if_neg fun h => h.2 hlength'
  · right
    have hlength' : (o.record row).fields.length ≠ (o.record row).columns.length := hlength
    refine ⟨⟨_, ?_, rfl⟩, beq_eq_false_iff_ne.2 hlength⟩
    unfold Record.validate
    rw [if_neg (by simp [hfilled])]
    exact if_pos ⟨hpositive, hlength'⟩

theorem lastFault_cons (line : Nat) (row : Csv.Row) (rest : List Csv.Row) :
    o.lastFault line (row :: rest) = o.lastFault row.line rest := by
  unfold lastFault
  rw [faultBehind?_cons]

/-- Behind a header the rows are judged by the number of their fields and by nothing else. -/
theorem bodyFrom_eq_judgedFrom (options : Options) (hheader : o.header = some header)
    (hcolumns : header ≠ []) {rows : List Csv.Row} (hrows : ∀ row ∈ rows, row.fields ≠ [])
    (line : Nat) : o.bodyFrom options line rows = o.judgedFrom options line rows := by
  induction rows generalizing line with
  | nil =>
    unfold bodyFrom judgedFrom faultAfter lastFault faultBehind?
    cases hstrict : options.strict <;> cases hfault : o.fault <;> rfl
  | cons row rest ih =>
    have hrest := ih (fun row' hrow' => hrows row' (List.mem_cons_of_mem _ hrow')) row.line
    rcases validate_record hheader hcolumns (hrows row List.mem_cons_self) with
      ⟨hvalid, hfits⟩ | ⟨⟨e, hinvalid, hmisfit⟩, hmisses⟩
    · rw [(rows_of_validate_ok options o hvalid line rest).1, hrest]
      unfold judgedFrom
      rw [lastFault_cons]
      cases options.strict <;> simp [hfits, judged]
    · have hrecord : Record.validate ⟨row.line, o.name, row.fields, o.header⟩ = .error e :=
        hinvalid
      unfold judgedFrom at hrest ⊢
      rw [bodyFrom, hrecord, lastFault_cons, hrest]
      -- a strict source ends here
      cases options.strict <;> simp [hmisses, judged, hmisfit, record]

/-- What rows come to is about records, never about the header. -/
theorem context_of_mem_judgedFrom {line : Nat} {rows : List Csv.Row} {e : Emission}
    (he : e ∈ o.judgedFrom options line rows) {error : FlowError} {r : Option Record}
    (herror : e.error? = some (error, r)) :
    ∃ line cause, error = .context "read_record" o.name line cause := by
  have hfault : ∀ line rows, e ∈ o.lastFault line rows →
      ∃ line cause, error = .context "read_record" o.name line cause := by
    intro line rows he
    unfold lastFault faultBehind? at he
    cases hend : o.fault with
    | none => simp [hend] at he
    | some cause =>
      have he : e = .failure (.context "read_record" o.name
          ((rows.getLast?.map Csv.Row.line).getD line + 1) cause) := by
        simpa [hend] using he
      subst he
      cases herror
      exact ⟨_, _, rfl⟩
  unfold judgedFrom at he
  split at he
  · rcases List.mem_append.1 he with he | he
    · rcases List.mem_map.1 he with ⟨row, _, rfl⟩
      cases herror
    · split at he
      · rw [List.mem_singleton.1 he] at herror
        cases herror
        exact ⟨_, _, rfl⟩
      · exact hfault _ _ he
  · rcases List.mem_append.1 he with he | he
    · rcases List.mem_map.1 he with ⟨row, _, rfl⟩
      unfold judged at herror
      split at herror
      · cases herror
      · cases herror
        exact ⟨_, _, rfl⟩
    · exact hfault _ _ he

end Opened

/-! ## One source -/

def tokensAt (options : Options) (files : Files) (p : Path) : Except FlowError Csv.Tokens :=
  (Input.ofPath .portions files p).map fun input =>
    Csv.tokenize options.delimiter input.lead input.bytes input.fault

theorem fields_ne_nil_of_tokensAt {tokens : Csv.Tokens} (h : tokensAt options files p = .ok tokens)
    {row : Csv.Row} (hrow : row ∈ tokens.rows) : row.fields ≠ [] := by
  unfold tokensAt at h
  cases hinput : Input.ofPath .portions files p with
  | error e =>
    rw [hinput] at h
    cases h
  | ok input =>
    rw [hinput] at h
    cases h
    exact Csv.fields_ne_nil_of_mem_tokenize hrow

/-- What a source opens to is told by its rows. -/
theorem Opened.ofPath_eq (options : Options) (files : Files) (name : String) (p : Path) :
    Opened.ofPath options files name p =
      match tokensAt options files p with
      | .error e => .error (.context "read" name 0 e)
      | .ok tokens => Opened.ofTokens options name tokens := by
  unfold Opened.ofPath tokensAt
  cases Input.ofPath .portions files p with
  | error e => rfl
  | ok input => rfl

theorem Opened.ofPath_of_error {e : FlowError} (h : tokensAt options files p = .error e) :
    Opened.ofPath options files name p = .error (.context "read" name 0 e) := by
  rw [ofPath_eq, h]

theorem Opened.ofPath_of_tokens {tokens : Csv.Tokens} (h : tokensAt options files p = .ok tokens) :
    Opened.ofPath options files name p = Opened.ofTokens options name tokens := by
  rw [ofPath_eq, h]

/-- What a source gives whose first row is a header that is not compared. -/
structure Uncompared (options : Options) (name : String) (tokens : Except FlowError Csv.Tokens)
    (emitted : List Emission) : Prop where
  unread : ∀ e, tokens = .error e → emitted = [.failure (.context "read" name 0 e)]
  /-- Without a first row there is no header. -/
  headless : ∀ fault, tokens = .ok ⟨[], fault⟩ →
    emitted = [.failure (fault.elim (.context "read_header" name 0 .emptyFile)
      (.context "read_header" name 1))]
  /-- A header that breaks a rule for names is refused, and no row is read. -/
  misnamed : ∀ first rows fault e, tokens = .ok ⟨first :: rows, fault⟩ →
    Header.validate first.fields = .error e →
    emitted = [.failure (.context "validate_header" name first.line e)]
  named : ∀ first rows fault, tokens = .ok ⟨first :: rows, fault⟩ →
    Header.validate first.fields = .ok () →
    emitted = Opened.judgedRows options ⟨name, some first.fields, rows, fault⟩

theorem uncompared_emissions (hheader : options.hasHeader = true) (files : Files) (name : String)
    (p : Path) :
    Uncompared options name (tokensAt options files p)
      (emissions options none (Opened.ofPath options files name p)) := by
  refine ⟨?_, ?_, ?_, ?_⟩
  · intro e htokens
    rw [Opened.ofPath_of_error htokens]
    rfl
  · intro fault htokens
    rw [Opened.ofPath_of_tokens htokens]
    cases fault <;> simp [Opened.ofTokens, hheader, emissions]
  · intro first rows fault e htokens hinvalid
    rw [Opened.ofPath_of_tokens htokens]
    simp [Opened.ofTokens, hheader, hinvalid, emissions]
  · intro first rows fault htokens hvalid
    have hopened : Opened.ofPath options files name p =
        .ok ⟨name, some first.fields, rows, fault⟩ := by
      rw [Opened.ofPath_of_tokens htokens]
      simp [Opened.ofTokens, hheader, hvalid]
    have hrows : ∀ row ∈ rows, row.fields ≠ [] := fun row hrow =>
      fields_ne_nil_of_tokensAt htokens (List.mem_cons_of_mem _ hrow)
    have hcolumns : first.fields ≠ [] := ((Header.validate_eq_ok_iff _).1 hvalid).nonempty
    rw [hopened, emissions_of_agreeing (Opened.mismatch?_none _)]
    exact Opened.bodyFrom_eq_judgedFrom options rfl hcolumns hrows 1

/-- An emission on the header of its source is the refusal of a name. -/
theorem Uncompared.cases_of_validate_header {emitted : List Emission}
    (h : Uncompared options name (tokensAt options files p) emitted) {e : Emission}
    (he : e ∈ emitted) {place : String} {line : Nat} {error : FlowError} {r : Option Record}
    (herror : e.error? = some (.context "validate_header" place line error, r)) :
    place = name ∧ r = none ∧ ∃ first rows fault,
      tokensAt options files p = .ok ⟨first :: rows, fault⟩ ∧ line = first.line ∧
        ∃ column text rule, text ∈ first.fields ∧ error = Header.columnError column text rule := by
  cases htokens : tokensAt options files p with
  | error e' =>
    rw [h.unread e' htokens, List.mem_singleton] at he
    subst he
    simp [Emission.error?] at herror
  | ok tokens =>
    rcases tokens with ⟨_ | ⟨first, rows⟩, fault⟩
    · rw [h.headless fault htokens, List.mem_singleton] at he
      subst he
      cases fault <;> simp [Emission.error?] at herror
    · cases hvalidate : Header.validate first.fields with
      | error e' =>
        rw [h.misnamed first rows fault e' htokens hvalidate, List.mem_singleton] at he
        subst he
        have hparts : (name = place ∧ first.line = line ∧ e' = error) ∧ none = r := by
          simpa [Emission.error?] using herror
        rcases hparts with ⟨⟨rfl, rfl, rfl⟩, rfl⟩
        have hfields := fields_ne_nil_of_tokensAt htokens List.mem_cons_self
        exact ⟨rfl, rfl, first, rows, fault, rfl, rfl, Header.validate_eq_error hfields hvalidate⟩
      | ok _ =>
        rw [h.named first rows fault htokens hvalidate] at he
        rcases Opened.context_of_mem_judgedFrom he herror with ⟨line', cause, hcontext⟩
        simp at hcontext

/-! ## All sources -/

/-- Whether a task has nothing to emit but some of the emissions `given`, and no header to
compare. -/
def Task.Within (options : Options) (given : List Emission) : Task → Prop
  | .opening source => emissions options none source ⊆ given
  | .comparing _ => False
  | .reading rest => rest ⊆ given
  | .offering e rest | .sending e rest => e :: rest ⊆ given
  | .closing (some error) => .failure error ∈ given
  | .closing none | .finished => True

theorem Task.within_givenUp (options : Options) (given : List Emission) (e : Emission) :
    (Task.givenUp e).Within options given := by
  cases e <;> trivial

/-- Without the comparison a move keeps to what there was to emit, disturbed or not. -/
theorem Task.Moves.within {cancelled : Bool} {known : Agreement} {offer : Emission → Offer}
    {given : List Emission} {t t' : Task} {slot : Option Slot} {e : Option Emission}
    (hmove : t.Moves options cancelled known offer t' slot e)
    (hskips : options.validateHeader = false) (ht : t.Within options given) :
    t'.Within options given ∧ e.toList ⊆ given := by
  cases hmove with
  | openFails error => exact ⟨ht List.mem_cons_self, List.nil_subset _⟩
  | @openShares o header hshares =>
    -- a header is shared for the comparison only
    simp [Opened.agreed?, hskips] at hshares
  | @openAlone o _ =>
    have hbody : emissions options none (.ok o) = o.body options :=
      emissions_of_agreeing o.mismatch?_none
    exact ⟨hbody ▸ ht, List.nil_subset _⟩
  | agrees | differs => exact ht.elim
  | looks rest =>
    refine ⟨?_, List.nil_subset _⟩
    cases rest with
    | nil => trivial
    | cons first rest =>
      cases cancelled with
      | true => trivial
      | false =>
        cases first with
        | failure error => exact ht List.mem_cons_self
        | record | rejected => exact ht
  | offers first rest =>
    refine ⟨?_, List.nil_subset _⟩
    cases cancelled with
    | false => exact ht
    | true => exact Task.within_givenUp options given first
  | @delivers first rest _ =>
    have hrest : rest ⊆ given := fun e he => ht (List.mem_cons_of_mem _ he)
    refine ⟨?_, ?_⟩
    · cases first with
      | failure error => trivial
      | record | rejected => exact hrest
    · intro e he
      rw [List.mem_singleton.1 he]
      exact ht List.mem_cons_self
  | @loses first rest _ | @quits first rest _ =>
    exact ⟨Task.within_givenUp options given first, List.nil_subset _⟩
  | ends => exact ⟨trivial, List.nil_subset _⟩
  | reports error =>
    refine ⟨?_, List.nil_subset _⟩
    intro e he
    rw [List.mem_singleton.1 he]
    exact ht

namespace Session

variable {sources : List (Except FlowError Opened)} {s : Session}

/-- Without the comparison a source emits what it gives alone, or a part of that if the session is
disturbed. -/
theorem mem_emissions_of_reaches (hskips : options.validateHeader = false)
    (h : Reaches (ofSources options sources) s) {i : Nat} {source : Except FlowError Opened}
    (hi : sources[i]? = some source) : s.emittedBy i ⊆ emissions options none source := by
  rcases exists_shows h hi with ⟨p, hp, rfl⟩
  have hwithin := forall_places (P := fun _ p =>
    p.emitted ⊆ emissions options none p.source ∧
      p.task.Within options (emissions options none p.source)) ?_ ?_ ?_ h hp
  · rw [hp.emitted]
    exact hwithin.1
  · intro i source _
    exact ⟨List.nil_subset _, List.Subset.refl _⟩
  · intro i p cancelled attended _ _ ih
    exact ih
  · intro s i p t' slot e offer _ _ _ hmove ih
    rcases hmove.within hskips ih.2 with ⟨htask, hemits⟩
    exact ⟨List.append_subset.2 ⟨ih.1, hemits⟩, htask⟩

/-- Without the comparison nothing is expected of a header. -/
theorem Completes.emittedBy_eq_alone (hskips : options.validateHeader = false)
    (h : s.Completes options sources) {i : Nat} {source : Except FlowError Opened}
    (hi : sources[i]? = some source) : s.emittedBy i = emissions options none source := by
  rw [h.emittedBy_eq hi]
  cases source with
  | error e => rfl
  | ok o =>
    have hunshared : o.agreed? options = none := by simp [Opened.agreed?, hskips]
    rw [emissions_of_agreeing (Opened.mismatch?_of_agreed?_eq_none hunshared _),
      emissions_of_agreeing o.mismatch?_none]

end Session

/-- When first rows are headers and headers are not compared, every list of sources can be read to
its end, and whatever the order of the steps

* a source that is read to its end emits an error if it has no first row or if its first row breaks
  a rule for names, and otherwise it emits or rejects its rows by the number of their fields,
* a source that emits an error on its header, in a session that may be cancelled or left at any
  time, has a first row that breaks a rule for names: no two headers are compared. -/
theorem name_rules_without_comparison (hheader : options.hasHeader = true)
    (hskips : options.validateHeader = false) (files : Files) (paths : List Path) :
    (∃ s : Session, s.Completes options (openAll options files paths)) ∧
    ∀ i p name, paths[i]? = some p → (names paths)[i]? = some name →
      (∀ s : Session, s.Completes options (openAll options files paths) →
        Uncompared options name (tokensAt options files p) (s.emittedBy i)) ∧
      ∀ s, Session.Reaches (.ofSources options (openAll options files paths)) s →
        ∀ e ∈ s.emittedBy i, ∀ place line error r,
          e.error? = some (.context "validate_header" place line error, r) →
          place = name ∧ r = none ∧ ∃ first rows fault,
            tokensAt options files p = .ok ⟨first :: rows, fault⟩ ∧ line = first.line ∧
              ∃ column text rule, text ∈ first.fields ∧
                error = Header.columnError column text rule := by
  refine ⟨Session.exists_completes options _, ?_⟩
  intro i p name hp hname
  have hopened := getElem?_openAll options files hp hname
  have hgiven := uncompared_emissions hheader files name p
  constructor
  · intro s hs
    rw [hs.emittedBy_eq_alone hskips hopened]
    exact hgiven
  · intro s hs e he place line error r herror
    exact hgiven.cases_of_validate_header (Session.mem_emissions_of_reaches hskips hs hopened he)
      herror

def uncomparing : Options := { Options.standard with validateHeader := false }

/-- The files `a` with the lines `i,n` and `1,x`, `b` with the lines `k,q`, `3` and `4,y`, and `c`
with the lines `i,i` and `5,z`. -/
def unlikeFiles : Files where
  root := .directory
    [("a", .file [105, 44, 110, 10, 49, 44, 120, 10]),
     ("b", .file [107, 44, 113, 10, 51, 10, 52, 44, 121, 10]),
     ("c", .file [105, 44, 105, 10, 53, 44, 122, 10])]
  cwd := []

def unlikePaths : List Path := [⟨"a"⟩, ⟨"b"⟩, ⟨"c"⟩]

/-- The second source has another header than the first and is read, with one row rejected. -/
theorem name_rules_of_unlikeFiles :
    ∃ s : Session, s.Completes uncomparing (openAll uncomparing unlikeFiles unlikePaths) ∧
      (s.emittedBy 1).filterMap Emission.record? = [⟨3, "b", ["4", "y"], some ["k", "q"]⟩] ∧
      (s.emittedBy 1).length = 2 ∧
      s.emittedBy 2 = [.failure (.context "validate_header" "c" 1
        (.validation "column 2" "i" "duplicate header name"))] := by
  have hheader : uncomparing.hasHeader = true := rfl
  have hskips : uncomparing.validateHeader = false := rfl
  rcases name_rules_without_comparison hheader hskips unlikeFiles unlikePaths with
    ⟨⟨s, hs⟩, hplaces⟩
  have hsecond := (hplaces 1 ⟨"b"⟩ "b" rfl (by decide +kernel)).1 s hs
  have hthird := (hplaces 2 ⟨"c"⟩ "c" rfl (by decide +kernel)).1 s hs
  have hrows : s.emittedBy 1 = Opened.judgedRows uncomparing
      ⟨"b", some ["k", "q"], [⟨["3"], 2⟩, ⟨["4", "y"], 3⟩], none⟩ :=
    hsecond.named ⟨["k", "q"], 1⟩ _ _ (by rfl) (by rfl)
  have hrefused := hthird.misnamed ⟨["i", "i"], 1⟩ [⟨["5", "z"], 2⟩] none _ (by rfl) (by rfl)
  refine ⟨s, hs, ?_, ?_, hrefused⟩
  · rw [hrows]
    decide +kernel
  · rw [hrows]
    decide +kernel

/-- The rules for names are not skipped with the comparison. -/
theorem name_rules_are_not_skipped :
    ¬ ∀ (options : Options) (files : Files) (paths : List Path) (s : Session),
      options.hasHeader = true → options.validateHeader = false →
      s.Completes options (openAll options files paths) →
      ∀ i e, e ∈ s.emittedBy i → ∀ place line error r,
        e.error? ≠ some (.context "validate_header" place line error, r) := by
  intro hskipped
  rcases Session.exists_completes uncomparing (openAll uncomparing unlikeFiles unlikePaths) with
    ⟨s, hs⟩
  have hopened : (openAll uncomparing unlikeFiles unlikePaths)[2]? =
      some (.error (.context "validate_header" "c" 1
        (.validation "column 2" "i" "duplicate header name"))) := by rfl
  have hemits : Emission.failure (.context "validate_header" "c" 1
      (.validation "column 2" "i" "duplicate header name")) ∈ s.emittedBy 2 := by
    rw [hs.emittedBy_eq_alone rfl hopened]
    exact List.mem_singleton_self _
  exact hskipped uncomparing unlikeFiles unlikePaths s rfl rfl hs 2 _ hemits _ _ _ _ rfl

end Source
end RecordFlow
