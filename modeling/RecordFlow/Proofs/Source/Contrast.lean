import RecordFlow.Proofs.Source.Agreement
import RecordFlow.Proofs.Source.Errors
import RecordFlow.Proofs.Source.Positions

/-!
# Contrast — a header mismatch shows two texts

The message of a header mismatch shows both headers, the names of each joined by commas.  No name of
an accepted header has a comma, so that the joined text is split into the names again
(`Header.splitOn_joined`), and two accepted headers that differ are shown as two texts that differ.
The headers that the reader reports are accepted ones (`Session.deviates_of_mem_emitted`), whatever
delimiter the sources have.
-/

namespace RecordFlow

/-! ## Joined names -/

namespace Header

theorem comma_not_mem {names : List String} (h : Proper names) {name : String}
    (hname : name ∈ names) : ',' ∉ name.toList := by
  intro hcomma
  have hletter : Letter.isAlphanumeric ',' = false := by decide +kernel
  rcases h.plain name hname ',' hcomma with hplain | hplain | hplain | hplain
  · rw [hletter] at hplain
    cases hplain
  all_goals exact absurd hplain (by decide)

/-- Splitting joined names at the commas gives the names back. -/
theorem splitOn_joined {names : List String} (h : Proper names) :
    (String.intercalate "," names).toList.splitOn ',' = names.map String.toList := by
  rw [String.toList_intercalate]
  refine List.splitOn_intercalate ',' ?_ (by simpa using h.nonempty)
  intro chars hchars
  rcases List.mem_map.1 hchars with ⟨name, hname, rfl⟩
  exact comma_not_mem h hname

/-- Accepted headers are told apart by their joined names. -/
theorem joined_eq_iff {expected actual : List String} (hexpected : Proper expected)
    (hactual : Proper actual) :
    String.intercalate "," expected = String.intercalate "," actual ↔ expected = actual := by
  constructor
  · intro hjoined
    have hchars : expected.map String.toList = actual.map String.toList := by
      rw [← splitOn_joined hexpected, hjoined, splitOn_joined hactual]
    exact List.map_injective_iff.2 (fun _ _ => String.toList_inj.1) hchars
  · rintro rfl
    rfl

end Header

namespace Source

variable {options : Options} {files : Files} {paths : List Path}

/-! ## Reported headers -/

theorem validate_of_acceptedHeader? {p : Path} {header : List String}
    (h : acceptedHeader? options files p = some header) : Header.validate header = .ok () := by
  unfold acceptedHeader? at h
  split at h
  · cases h
  · unfold acceptedFirst? at h
    split at h
    · cases h
    · split at h
      · cases h
        assumption
      · cases h

/-- The headers of a deviation are accepted ones. -/
theorem Deviates.accepted {i : Nat} {expected actual : List String}
    (h : Deviates options files paths i expected actual) :
    Header.validate expected = .ok () ∧ Header.validate actual = .ok () := by
  rcases h.first with ⟨j, _, hexpected, _⟩
  rcases Option.bind_eq_some_iff.1 hexpected with ⟨_, _, hexpected⟩
  rcases Option.bind_eq_some_iff.1 h.own with ⟨_, _, hactual⟩
  exact ⟨validate_of_acceptedHeader? hexpected, validate_of_acceptedHeader? hactual⟩

/-- No error but that of a deviation is about two headers. -/
theorem Reports.of_headerMismatch {name : String} {p : Path} {first : Option (List String)}
    {error : RecordError} (h : Reports options files name p first error)
    {expected actual : List String}
    (hroot : error.error.rootCause = .headerMismatch expected actual) :
    first = some expected ∧ acceptedHeader? options files p = some actual ∧ expected ≠ actual ∧
      error.error = .context "validate_header" name 0 (.headerMismatch expected actual) := by
  cases h with
  | unread hinput =>
    rcases ofPath_error_cases hinput with rfl | rfl | ⟨e, rfl⟩
    · cases hroot
    · cases hroot
    · cases e <;> cases hroot
  | headless => cases hroot
  | breaksOff htokens hfault _ =>
    rcases fault_tokensAt_cases htokens hfault with ⟨_, rfl⟩ | ⟨_, rfl⟩ | ⟨_, _, _, rfl⟩ <;>
      cases hroot
  | misnamed _ htokens hrefused =>
    rcases exists_columnError htokens hrefused with ⟨_, _, _, _, rfl⟩
    cases hroot
  | deviates hfirst hactual hne =>
    cases hroot
    exact ⟨hfirst, hactual, hne, rfl⟩
  | malformed _ hinvalid _ =>
    rcases exists_invalidRecord hinvalid with ⟨_, rfl⟩
    cases hroot

/-- The first header that is shared is there to be compared. -/
theorem compares_of_firstShared? {i : Nat} {header : List String}
    (h : firstShared? options ((openAll options files paths).take i) = some header) :
    (options.hasHeader = true ∧ options.validateHeader = true) ∧
      ∃ j < i, paths[j]?.bind (acceptedHeader? options files) = some header ∧
        ∀ k < j, paths[k]?.bind (acceptedHeader? options files) = none := by
  rcases (firstShared?_take_eq_some_iff _ _ _ _).1 h with ⟨j, hj, hheader, hbefore⟩
  have hcompare : options.hasHeader = true ∧ options.validateHeader = true := by
    by_contra hnot
    rw [bind_shared?_openAll, if_neg hnot] at hheader
    cases hheader
  simp only [bind_shared?_openAll, if_pos hcompare] at hheader hbefore
  exact ⟨hcompare, j, hj, hheader, hbefore⟩

/-- A header mismatch is reported where the header of a source deviates. -/
theorem Session.deviates_of_mem_emitted {s : Session}
    (h : Reaches (ofSources options (openAll options files paths)) s) {i : Nat} {e : Emission}
    {error : RecordError} {expected actual : List String} (he : (i, e) ∈ s.emitted)
    (herror : e.rejection? = some error)
    (hroot : error.error.rootCause = .headerMismatch expected actual) :
    Deviates options files paths i expected actual ∧ ∃ name, (names paths)[i]? = some name ∧
      error.error = .context "validate_header" name 0 (.headerMismatch expected actual) := by
  rcases reports_of_mem_emitted h he herror with ⟨name, p, hp, hname, hreports⟩
  rcases hreports.of_headerMismatch hroot with ⟨hfirst, hactual, hne, heq⟩
  rcases compares_of_firstShared? hfirst with ⟨⟨hheader, hvalidate⟩, hbefore⟩
  have hown : paths[i]?.bind (acceptedHeader? options files) = some actual := by
    rw [hp, Option.bind_some, hactual]
  exact ⟨⟨hheader, hvalidate, hown, hbefore, hne⟩, name, hname, heq⟩

/-- A header mismatch shows what differs.

* Two headers that are accepted have the same joined text if and only if they are the same, however
  many names they have.
* Whatever the sources are and whatever the reader is told, at any time of a reading and under any
  cancellation: a mismatch that is reported on a source is one of two accepted headers, that of the
  source and that of the first earlier source with one.  Its message shows both, and they are two
  different texts. -/
theorem mismatch_shows_difference :
    (∀ expected actual : List String,
      Header.validate expected = .ok () → Header.validate actual = .ok () →
      (String.intercalate "," expected = String.intercalate "," actual ↔ expected = actual)) ∧
    ∀ (options : Options) (files : Files) (paths : List Path) (s : Session),
      Session.Reaches (.ofSources options (openAll options files paths)) s →
      ∀ i e error expected actual, (i, e) ∈ s.emitted → e.rejection? = some error →
        error.error.rootCause = .headerMismatch expected actual →
        Deviates options files paths i expected actual ∧
        Header.validate expected = .ok () ∧ Header.validate actual = .ok () ∧
        ∃ name, (names paths)[i]? = some name ∧
          error.error.message =
            FlowError.contextLabel "validate_header" name 0 ++
              ("header mismatch: expected [" ++ String.intercalate "," expected ++
                "], got [" ++ String.intercalate "," actual ++ "]") ∧
          String.intercalate "," expected ≠ String.intercalate "," actual := by
  constructor
  · intro expected actual hexpected hactual
    exact Header.joined_eq_iff ((Header.validate_eq_ok_iff _).1 hexpected)
      ((Header.validate_eq_ok_iff _).1 hactual)
  · intro options files paths s hs i e error expected actual he herror hroot
    rcases Session.deviates_of_mem_emitted hs he herror hroot with
      ⟨hdeviates, name, hname, heq⟩
    rcases hdeviates.accepted with ⟨hexpected, hactual⟩
    have hjoined := Header.joined_eq_iff ((Header.validate_eq_ok_iff _).1 hexpected)
      ((Header.validate_eq_ok_iff _).1 hactual)
    refine ⟨hdeviates, hexpected, hactual, name, hname, ?_, ?_⟩
    · rw [heq]
      rfl
    · rw [Ne, hjoined]
      exact hdeviates.differs

/-- Sources that take their steps in turn are a session. -/
theorem Session.reaches_foldl_next {start s : Session} (h : Reaches start s) (turns : List Nat) :
    Reaches start (turns.foldl next s) := by
  induction turns generalizing s with
  | nil => exact h
  | cons i turns ih => exact ih (reaches_next h i)

/-- A reader for files with semicolons between the fields. -/
def semicolons : Options := { Options.standard with delimiter := 59 }

/-- The files `a` with the line `i n;m` and `b` with the line `i;n m`. -/
def cutFiles : Files where
  root := .directory
    [("a", .file [105, 32, 110, 59, 109, 10]), ("b", .file [105, 59, 110, 32, 109, 10])]
  cwd := []

def cutPaths : List Path := [⟨"a"⟩, ⟨"b"⟩]

def cutSources : List (Except FlowError Opened) := openAll semicolons cutFiles cutPaths

/-- Both sources tell their headers; then the second one reports that they differ. -/
def cutSession : Session :=
  [0, 1, 1, 1, 1, 1].foldl Session.next (.ofSources semicolons cutSources)

theorem mismatch_shows_difference_cut :
    cutSession.emitted =
      [(1, .failure (.context "validate_header" "b" 0
        (.headerMismatch ["i n", "m"] ["i", "n m"])))] ∧
    (FlowError.context "validate_header" "b" 0
      (.headerMismatch ["i n", "m"] ["i", "n m"])).message =
      "validate_header: b: header mismatch: expected [i n,m], got [i,n m]" ∧
    String.intercalate "," ["i n", "m"] ≠ String.intercalate "," ["i", "n m"] := by
  have hreaches : Session.Reaches (.ofSources semicolons cutSources) cutSession :=
    Session.reaches_foldl_next .refl _
  have hemitted : cutSession.emitted =
      [(1, .failure (.context "validate_header" "b" 0
        (.headerMismatch ["i n", "m"] ["i", "n m"])))] := by decide +kernel
  have hmem : (1, Emission.failure (.context "validate_header" "b" 0
      (.headerMismatch ["i n", "m"] ["i", "n m"]))) ∈ cutSession.emitted := by
    rw [hemitted]
    exact List.mem_singleton_self _
  rcases mismatch_shows_difference.2 semicolons cutFiles cutPaths cutSession hreaches 1 _ _
    ["i n", "m"] ["i", "n m"] hmem rfl rfl with ⟨_, _, _, _, _, _, hdiffers⟩
  exact ⟨hemitted, by decide +kernel, hdiffers⟩

end Source
end RecordFlow
