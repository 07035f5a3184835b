import RecordFlow.Proofs.Source.Progress

/-!
# Isolation — what other sources can do to a source

Read with others or read alone, a source emits the same, whatever becomes of the others and whatever
the order of the steps.  There is one exception: a source whose header is not the one of the first
earlier source with an accepted header emits nothing but the error that says so.
-/

namespace RecordFlow
namespace Source

/-! ## Accepted headers -/

/-- The first of some rows, if the rules for column names accept it. -/
def acceptedFirst? (rows : List Csv.Row) : Option (List String) :=
  match rows with
  | [] => none
  | row :: _ =>
    match Header.validate row.fields with
    | .ok () => some row.fields
    | .error _ => none

/-- The first row of the source at a path, if it is accepted. -/
def acceptedHeader? (options : Options) (files : Files) (p : Path) : Option (List String) :=
  match Input.ofPath .portions files p with
  | .error _ => none
  | .ok input =>
    acceptedFirst? (Csv.tokenize options.delimiter input.lead input.bytes input.fault).rows

/-- The header `actual` of the source at place `i` is compared with `expected`, that of the first
earlier source with an accepted header, and is another one. -/
structure Deviates (options : Options) (files : Files) (paths : List Path) (i : Nat)
    (expected actual : List String) : Prop where
  hasHeader : options.hasHeader = true
  validateHeader : options.validateHeader = true
  own : paths[i]?.bind (acceptedHeader? options files) = some actual
  first : ∃ j < i, paths[j]?.bind (acceptedHeader? options files) = some expected ∧
    ∀ k < j, paths[k]?.bind (acceptedHeader? options files) = none
  differs : expected ≠ actual

theorem shared?_ofTokens (options : Options) (name : String) (tokens : Csv.Tokens) :
    shared? options (Opened.ofTokens options name tokens) =
      if options.hasHeader = true ∧ options.validateHeader = true then
        acceptedFirst? tokens.rows
      else none := by
  cases hh : options.hasHeader with
  | false =>
    cases hv : options.validateHeader <;>
      simp [Opened.ofTokens, hh, shared?, Opened.agreed?, hv]
  | true =>
    cases hrows : tokens.rows with
    | nil =>
      cases hf : tokens.fault <;> simp [Opened.ofTokens, hh, hrows, hf, shared?, acceptedFirst?]
    | cons row rows =>
      cases hvalid : Header.validate row.fields with
      | error error => simp [Opened.ofTokens, hh, hrows, hvalid, shared?, acceptedFirst?]
      | ok _ =>
        cases hv : options.validateHeader <;>
          simp [Opened.ofTokens, hh, hrows, hvalid, shared?, Opened.agreed?, hv, acceptedFirst?]

/-- Headers are shared when they are accepted, if they are to be compared at all. -/
theorem shared?_ofPath (options : Options) (files : Files) (name : String) (p : Path) :
    shared? options (Opened.ofPath options files name p) =
      if options.hasHeader = true ∧ options.validateHeader = true then
        acceptedHeader? options files p
      else none := by
  cases hinput : Input.ofPath .portions files p with
  | error error => simp [Opened.ofPath, acceptedHeader?, hinput, shared?]
  | ok input => simp only [Opened.ofPath, acceptedHeader?, hinput, shared?_ofTokens]

/-! ## Lists of opened sources -/

theorem getElem?_openAll (options : Options) (files : Files) {paths : List Path} {i : Nat}
    {p : Path} {name : String} (hp : paths[i]? = some p) (hname : (names paths)[i]? = some name) :
    (openAll options files paths)[i]? = some (Opened.ofPath options files name p) := by
  have hzip : (paths.zip (names paths))[i]? = some (p, name) :=
    List.getElem?_zip_eq_some.2 ⟨hp, hname⟩
  rw [openAll, List.getElem?_map, hzip, Option.map_some]

/-- Every opened source of a list has a path and a name. -/
theorem openAll_cases {options : Options} {files : Files} {paths : List Path} {i : Nat}
    {source : Except FlowError Opened} (h : (openAll options files paths)[i]? = some source) :
    ∃ name p, paths[i]? = some p ∧ (names paths)[i]? = some name ∧
      source = Opened.ofPath options files name p := by
  rw [openAll, List.getElem?_map] at h
  rcases Option.map_eq_some_iff.1 h with ⟨⟨p, name⟩, hzip, rfl⟩
  rcases List.getElem?_zip_eq_some.1 hzip with ⟨hp, hname⟩
  exact ⟨name, p, hp, hname, rfl⟩

@[simp]
theorem length_names (paths : List Path) : (names paths).length = paths.length := by
  simp [names]

@[simp]
theorem length_openAll (options : Options) (files : Files) (paths : List Path) :
    (openAll options files paths).length = paths.length := by
  simp [openAll]

/-- What the source at a place shares does not depend on the name it goes by. -/
theorem bind_shared?_openAll (options : Options) (files : Files) (paths : List Path) (i : Nat) :
    (openAll options files paths)[i]?.bind (shared? options) =
      if options.hasHeader = true ∧ options.validateHeader = true then
        paths[i]?.bind (acceptedHeader? options files)
      else none := by
  by_cases hi : i < paths.length
  · have hname : i < (names paths).length := by simpa using hi
    rw [getElem?_openAll options files (List.getElem?_eq_getElem hi)
      (List.getElem?_eq_getElem hname)]
    simp [shared?_ofPath, hi]
  · have hpaths : paths[i]? = none := List.getElem?_eq_none (by omega)
    have hopened : (openAll options files paths)[i]? = none :=
      List.getElem?_eq_none (by rw [length_openAll]; omega)
    simp [hpaths, hopened]

theorem getElem?_emissionsFrom (options : Options) (expected : Option (List String))
    (sources : List (Except FlowError Opened)) (i : Nat) :
    (emissionsFrom options expected sources)[i]? =
      sources[i]?.map
        (emissions options (expected.or (firstShared? options (sources.take i)))) := by
  -- along the list; what is expected of the rest depends on the first
  induction sources generalizing expected i with
  | nil => simp [emissionsFrom]
  | cons source rest ih =>
    have hstep : emissionsFrom options expected (source :: rest) =
        emissions options expected source ::
          emissionsFrom options (expected.or (shared? options source)) rest := by
      cases source <;> cases expected <;> rfl
    rw [hstep]
    cases i with
    | zero => simp [firstShared?]
    | succ i =>
      rw [List.getElem?_cons_succ, ih, List.getElem?_cons_succ, List.take_succ_cons]
      cases hs : shared? options source <;> simp [firstShared?, hs]

/-- An undisturbed session emits what `readAll` lists. -/
theorem Session.Completes.emittedBy_eq_readAll {options : Options} {files : Files}
    {paths : List Path} {s : Session} (h : s.Completes options (openAll options files paths))
    {i : Nat} (hi : i < paths.length) :
    (readAll options false files paths)[i]? = some (s.emittedBy i) := by
  have hopened : i < (openAll options files paths).length := by simpa using hi
  have hsource := List.getElem?_eq_getElem hopened
  rw [readAll, if_neg (by simp), getElem?_emissionsFrom, hsource, h.emittedBy_eq hsource]
  simp

/-! ## With others and alone -/

theorem Opened.mismatch?_of_ne {o : Opened} {expected actual : List String}
    (hactual : o.header = some actual) (hne : expected ≠ actual) :
    o.mismatch? (some expected) =
      some (.context "validate_header" o.name 0 (.headerMismatch expected actual)) := by
  simp [Opened.mismatch?, hactual, hne]

/-- Without a deviation a source gives what it gives alone. -/
theorem emissions_eq_alone {options : Options} {files : Files} {paths : List Path} {i : Nat}
    {p : Path} {name : String} (hp : paths[i]? = some p) (hname : (names paths)[i]? = some name)
    (h : ∀ expected actual, ¬ Deviates options files paths i expected actual) :
    emissions options (firstShared? options ((openAll options files paths).take i))
        (Opened.ofPath options files name p) =
      emissions options none (Opened.ofPath options files name p) := by
  -- it suffices that the comparison finds nothing
  cases hsource : Opened.ofPath options files name p with
  | error error => rfl
  | ok o =>
    refine (emissions_of_agreeing ?_).trans (emissions_of_agreeing o.mismatch?_none).symm
    cases hfirst : firstShared? options ((openAll options files paths).take i) with
    | none => exact o.mismatch?_none
    | some expected =>
      rcases (firstShared?_take_eq_some_iff _ _ _ _).1 hfirst with ⟨j, hj, hexpected, hbefore⟩
      simp only [bind_shared?_openAll] at hexpected hbefore
      by_cases hcompare : options.hasHeader = true ∧ options.validateHeader = true
      · simp only [if_pos hcompare] at hexpected hbefore
        cases hheader : o.header with
        | none => simp [Opened.mismatch?, hheader]
        | some actual =>
          by_cases hne : expected = actual
          · simp [Opened.mismatch?, hheader, hne]
          · have hown : paths[i]?.bind (acceptedHeader? options files) = some actual := by
              have hshared := bind_shared?_openAll options files paths i
              rw [getElem?_openAll options files hp hname, hsource, if_pos hcompare] at hshared
              rw [← hshared]
              simp [shared?, Opened.agreed?, hcompare.2, hheader]
            exact absurd ⟨hcompare.1, hcompare.2, hown, ⟨j, hj, hexpected, hbefore⟩, hne⟩
              (h expected actual)
      · rw [if_neg hcompare] at hexpected
        cases hexpected

/-- A deviating source gives nothing but the error that says so. -/
theorem emissions_of_deviates {options : Options} {files : Files} {paths : List Path} {i : Nat}
    {p : Path} {name : String} {expected actual : List String} (hp : paths[i]? = some p)
    (h : Deviates options files paths i expected actual) :
    emissions options (firstShared? options ((openAll options files paths).take i))
        (Opened.ofPath options files name p) =
      [.failure (.context "validate_header" name 0 (.headerMismatch expected actual))] := by
  have hcompare : options.hasHeader = true ∧ options.validateHeader = true :=
    ⟨h.hasHeader, h.validateHeader⟩
  -- the header expected of the source, and its own
  have hfirst : firstShared? options ((openAll options files paths).take i) = some expected := by
    rcases h.first with ⟨j, hj, hexpected, hbefore⟩
    refine (firstShared?_take_eq_some_iff _ _ _ _).2 ⟨j, hj, ?_, ?_⟩
    · rw [bind_shared?_openAll, if_pos hcompare, hexpected]
    · intro k hk
      rw [bind_shared?_openAll, if_pos hcompare, hbefore k hk]
  have hshared : shared? options (Opened.ofPath options files name p) = some actual := by
    have hown := h.own
    rw [shared?_ofPath, if_pos hcompare, ← hown, hp, Option.bind_some]
  cases hsource : Opened.ofPath options files name p with
  | error error => simp [hsource, shared?] at hshared
  | ok o =>
    have hheader : o.header = some actual := by
      simpa [hsource, shared?, Opened.agreed?, h.validateHeader] using hshared
    rw [hfirst, emissions_of_mismatch? (Opened.mismatch?_of_ne hheader h.differs),
      (Opened.ofPath_cases hsource).1]

/-- Sources do not disturb each other.  Reading them together comes to an end, and so does reading
one of them alone; however the steps of both are ordered, the source emits the same in both, unless
its header deviates from that of the first earlier source with an accepted one.  Then it emits the
one error that reports both headers. -/
theorem source_isolation (options : Options) (files : Files) (paths : List Path) :
    (∃ s : Session, s.Completes options (openAll options files paths)) ∧
    ∀ i p name, paths[i]? = some p → (names paths)[i]? = some name →
      (∃ alone : Session, alone.Completes options [Opened.ofPath options files name p]) ∧
      ∀ s alone : Session, s.Completes options (openAll options files paths) →
        alone.Completes options [Opened.ofPath options files name p] →
        (∀ expected actual, Deviates options files paths i expected actual →
          s.emittedBy i =
            [.failure (.context "validate_header" name 0 (.headerMismatch expected actual))]) ∧
        ((∀ expected actual, ¬ Deviates options files paths i expected actual) →
          s.emittedBy i = alone.emittedBy 0) := by
  refine ⟨Session.exists_completes options _, ?_⟩
  intro i p name hp hname
  refine ⟨Session.exists_completes options _, ?_⟩
  intro s alone hs halone
  -- together and alone, a source emits what it gives behind the header expected of it
  have htogether := hs.emittedBy_eq (getElem?_openAll options files hp hname)
  have hown : alone.emittedBy 0 = emissions options none (Opened.ofPath options files name p) :=
    halone.emittedBy_eq rfl
  refine ⟨?_, ?_⟩
  · intro expected actual hdeviates
    rw [htogether, emissions_of_deviates hp hdeviates]
  · intro hnone
    rw [htogether, hown, emissions_eq_alone hp hname hnone]

/-- The files `a` with the lines `i,n` and `1,x`, `b` with the lines `i` and `7`, and `c` with the
lines `i,n` and `3,y`. -/
def trioFiles : Files where
  root := .directory
    [("a", .file [105, 44, 110, 10, 49, 44, 120, 10]), ("b", .file [105, 10, 55, 10]),
     ("c", .file [105, 44, 110, 10, 51, 44, 121, 10])]
  cwd := []

def trioPaths : List Path := [⟨"a"⟩, ⟨"b"⟩, ⟨"c"⟩]

/-- The second of three sources deviates from the first, and the third does not notice. -/
theorem source_isolation_trio :
    ∃ s alone : Session, s.Completes .standard (openAll .standard trioFiles trioPaths) ∧
      alone.Completes .standard [Opened.ofPath .standard trioFiles "c" ⟨"c"⟩] ∧
      s.emittedBy 1 =
        [.failure (.context "validate_header" "b" 0 (.headerMismatch ["i", "n"] ["i"]))] ∧
      s.emittedBy 2 = alone.emittedBy 0 := by
  rcases source_isolation .standard trioFiles trioPaths with ⟨⟨s, hs⟩, hplaces⟩
  rcases hplaces 1 ⟨"b"⟩ "b" rfl (by decide +kernel) with ⟨⟨second, hsecond⟩, hdeviating⟩
  rcases hplaces 2 ⟨"c"⟩ "c" rfl (by decide +kernel) with ⟨⟨third, hthird⟩, hagreeing⟩
  refine ⟨s, third, hs, hthird, ?_, ?_⟩
  · refine (hdeviating s second hs hsecond).1 _ _ ⟨rfl, rfl, by decide +kernel, ?_, by decide⟩
    exact ⟨0, by decide, by decide +kernel, by decide⟩
  · refine (hagreeing s third hs hthird).2 fun expected actual hdeviates => ?_
    have hown : some ["i", "n"] = some actual :=
      (by decide +kernel : some ["i", "n"] =
        trioPaths[2]?.bind (acceptedHeader? .standard trioFiles)).trans hdeviates.own
    have hfirst : trioPaths[0]?.bind (acceptedHeader? .standard trioFiles) = some ["i", "n"] := by
      decide +kernel
    rcases hdeviates.first with ⟨j, _, hexpected, hbefore⟩
    have hj : j = 0 := by
      by_contra hne
      have hnone := hbefore 0 (Nat.pos_of_ne_zero hne)
      rw [hfirst] at hnone
      cases hnone
    subst hj
    rw [hfirst] at hexpected
    exact hdeviates.differs (Option.some_inj.1 (hexpected.symm.trans hown))

end Source
end RecordFlow
