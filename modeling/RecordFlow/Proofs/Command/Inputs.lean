import RecordFlow.Command.Invocation
import RecordFlow.Proofs.Files.Writes

/-!
# Inputs — what a command leaves of the files that it reads

An invocation writes to the file of its output and to that of its error report, and to no other.
Whether one of them is a source is not looked at: an output is emptied before the sources are read,
and a report takes the place of what was there.

* `Arguments.written` are the paths that a command line has written to,
* `rewritten_invoke` says that an invocation only writes there, in whatever way it ends,
* `sources_keep_bytes` draws from it that the other sources stay as they are, and
  `output_replaces_source` shows one that does not.
-/

namespace RecordFlow
namespace Command

variable {s : Surroundings} {files after : Files} {words : List String} {a : Arguments} {p : Path}

/-! ## Accepted command lines -/

def Arguments.written (a : Arguments) : List Path :=
  (if a.noOutput then [] else a.output.toList) ++ a.errorReport.toList

/-- Whether words ask for a run that can be made: they are completed and read as arguments, the
settings of which pass their check. -/
structure Accepts (s : Surroundings) (files : Files) (words : List String) (a : Arguments) :
    Prop where
  parsed : ∃ completed, complete s files words = .ok completed ∧ parse completed = .ok a
  checked : (Settings.ofArguments a s.processors s.terminal).fault? files = none

theorem Accepts.invoke_eq (h : Accepts s files words a) :
    invoke s files words = carryOut s files a := by
  rcases h.parsed with ⟨completed, hcomplete, hparse⟩
  unfold invoke
  simp only [hcomplete, hparse]

theorem badSource?_eq_none_iff (files : Files) (sources : List Path) :
    Settings.badSource? files sources = none ↔
      ∀ p ∈ sources, files.contains p = true ∧ files.isDirectory p = false := by
  unfold Settings.badSource?
  rw [List.findSome?_eq_none_iff]
  apply forall₂_congr
  intro p _
  cases files.contains p <;> cases files.isDirectory p <;> simp

/-- The sources of settings without a fault are files. -/
theorem badSource?_of_fault?_eq_none {settings : Settings} (h : settings.fault? files = none) :
    Settings.badSource? files settings.run.sources = none := by
  unfold Settings.fault? at h
  cases hbad : Settings.badSource? files settings.run.sources with
  | none => rfl
  | some fault =>
    by_cases hempty : settings.run.sources.isEmpty = true
    · simp [hempty] at h
    · simp [hempty, hbad] at h

theorem exists_bytes_of_isFile (hcontains : files.contains p = true)
    (hfile : files.isDirectory p = false) : ∃ bytes, files.bytes? p = some bytes := by
  unfold Files.contains at hcontains
  unfold Files.isDirectory at hfile
  cases hlookup : files.lookup p with
  | error e => simp [hlookup] at hcontains
  | ok node =>
    rcases Files.lookup_cases hlookup with ⟨entries, access, rfl⟩ | ⟨bytes, access, rfl⟩
    · simp [hlookup, Node.isDirectory] at hfile
    · exact ⟨bytes, by rw [Files.bytes?, hlookup]⟩

/-- The sources of an accepted command line are files, whether or not they may be read. -/
theorem Accepts.exists_bytes (h : Accepts s files words a) (hp : p ∈ a.files) :
    ∃ bytes, files.bytes? p = some bytes := by
  have hgood := (badSource?_eq_none_iff files a.files).1 (badSource?_of_fault?_eq_none h.checked)
  exact exists_bytes_of_isFile (hgood p hp).1 (hgood p hp).2

/-! ## What is written -/

def Settings.written (settings : Settings) : List Path :=
  (match settings.target with
    | .file p => [p]
    | _ => []) ++ settings.errorReport.toList

theorem written_ofArguments (a : Arguments) (processors : Nat) (terminal : Bool) :
    (Settings.ofArguments a processors terminal).written = a.written := by
  unfold Settings.written Arguments.written Settings.ofArguments Settings.targetOf
  cases a.noOutput <;> cases a.output <;> rfl

section Run

variable {settings : Settings} {before : Files}

theorem mem_written_of_target {q : Path} (h : settings.target = .file q) :
    q ∈ settings.written := by
  unfold Settings.written
  rw [h]
  exact List.mem_append_left _ (List.mem_singleton_self q)

theorem mem_written_of_errorReport {q : Path} (h : settings.errorReport = some q) :
    q ∈ settings.written := by
  unfold Settings.written
  rw [h]
  exact List.mem_append_right _ (List.mem_singleton_self q)

/-- A write succeeds if it does with a message of its own for every error. -/
theorem write_of_answer {answer : Except SystemError Files} {message : SystemError → String}
    (h : (match answer with
      | .ok files => Except.ok files
      | .error e => .error (message e)) = .ok after) : answer = .ok after := by
  cases answer with
  | error e => cases h
  | ok written =>
    cases h
    rfl

theorem rewritten_openTarget (hbefore : Files.Rewritten settings.written files before)
    (h : openTarget before settings.target = .ok after) :
    Files.Rewritten settings.written files after := by
  cases htarget : settings.target with
  | standardOutput | nowhere =>
    rw [htarget] at h
    cases h
    exact hbefore
  | file q =>
    rw [htarget] at h
    exact hbefore.write (mem_written_of_target htarget) (write_of_answer h)

theorem rewritten_deliver (hbefore : Files.Rewritten settings.written files before)
    (lines : List String) :
    Files.Rewritten settings.written files (deliver before lines settings.target) := by
  cases htarget : settings.target with
  | standardOutput | nowhere => exact hbefore
  | file q =>
    unfold deliver
    cases hwrite : writeLines before q lines with
    | error message =>
      simp only [hwrite]
      exact hbefore
    | ok delivered =>
      simp only [hwrite]
      exact hbefore.write (mem_written_of_target htarget) (write_of_answer hwrite)

theorem rewritten_exportErrors (hbefore : Files.Rewritten settings.written files before) {r : Run}
    (h : exportErrors before r settings.errorReport = .ok after) :
    Files.Rewritten settings.written files after := by
  cases hreport : settings.errorReport with
  | none =>
    rw [hreport] at h
    cases h
    exact hbefore
  | some q =>
    rw [hreport] at h
    unfold exportErrors at h
    cases hwrite : Report.write r.ledger.collector before q with
    | error message => simp [hwrite] at h
    | ok exported =>
      have hafter : exported = after := by simpa [hwrite] using h
      rw [← hafter]
      exact hbefore.write (mem_written_of_errorReport hreport) (write_of_answer hwrite)

/-- A run that has returned writes to its target and to its report. -/
theorem rewritten_conclude (hbefore : Files.Rewritten settings.written files before)
    (banner : String) (run : Run) (outcome : Except FlowError Unit) :
    Files.Rewritten settings.written files (conclude settings before banner run outcome).files := by
  have hdelivered := rewritten_deliver hbefore run.ledger.output.lines
  unfold conclude
  simp only
  split
  · exact hdelivered
  · rename_i hexport
    exact rewritten_exportErrors hdelivered hexport

/-- A run writes to its target when it begins and when it ends, and to its report then, in whatever
way it ends. -/
theorem rewritten_makeRun (s : Surroundings) (settings : Settings) (files : Files) :
    Files.Rewritten settings.written files (makeRun s settings files).files := by
  unfold makeRun
  cases hopen : openTarget files settings.target with
  | error message => exact .refl
  | ok opened =>
    have hopened := rewritten_openTarget .refl hopen
    simp only
    split
    · exact rewritten_conclude hopened _ _ _
    · exact rewritten_deliver hopened _
    · exact rewritten_deliver hopened _

end Run

/-- Arguments are carried out by writes to the paths that they name for that. -/
theorem rewritten_carryOut (s : Surroundings) (files : Files) (a : Arguments) :
    Files.Rewritten a.written files (carryOut s files a).files := by
  have hrun := rewritten_makeRun s (.ofArguments a s.processors s.terminal) files
  rw [written_ofArguments] at hrun
  -- whatever keeps the run from being made leaves the files as they are
  unfold carryOut
  split
  · exact .refl
  · split
    · exact .refl
    · split
      · exact .refl
      · exact .refl
      · dsimp only
        split
        · exact .refl
        · exact hrun

/-- An accepted command line writes to its output and to its report, in whatever way it ends. -/
theorem Accepts.rewritten (h : Accepts s files words a) :
    Files.Rewritten a.written files (invoke s files words).files := by
  rw [h.invoke_eq]
  exact rewritten_carryOut s files a

/-- A source of an accepted command line is a file, and an invocation leaves its bytes unless the
path of the output or that of the error report leads to it, in whichever spelling and along
whichever links. -/
theorem sources_keep_bytes (h : Accepts s files words a) (hp : p ∈ a.files) :
    ∃ bytes, files.bytes? p = some bytes ∧
      (files.Spares a.written p → (invoke s files words).files.bytes? p = some bytes) := by
  rcases h.exists_bytes hp with ⟨bytes, hbytes⟩
  exact ⟨bytes, hbytes, fun hspares => h.rewritten.bytes?_of_spares hspares hbytes⟩

/-! ## Sources, an output and a report -/

/-- Surroundings that say nothing. -/
def plainSurroundings : Surroundings where
  environment := ⟨none, none⟩
  logFilters := []
  processors := 1
  terminal := false
  start := default
  finish := default

/-- A working directory with three sources, the third of which may not be read, and with a link to
the second one. -/
def threeSources : Files where
  root := .directory
    [("a.csv", .file (Utf8.encode "id\n1\n")), ("b.csv", .file (Utf8.encode "id\n2\n")),
      ("c.csv", .file (Utf8.encode "id\n3\n") ⟨false, false, false⟩),
      ("last", .link false ["b.csv"])]
  cwd := []

def reportingWords : List String :=
  ["csvflow", "-q", "-o", "out.txt", "--error-report", "./last", "a.csv", "b.csv", "c.csv"]

def reportingArguments : Arguments :=
  { Arguments.usual with
    files := [⟨"a.csv"⟩, ⟨"b.csv"⟩, ⟨"c.csv"⟩]
    output := some ⟨"out.txt"⟩
    errorReport := some ⟨"./last"⟩
    quiet := true }

theorem accepts_reportingWords :
    Accepts plainSurroundings threeSources reportingWords reportingArguments where
  parsed := ⟨reportingWords, by rfl, by rfl⟩
  checked := by decide +kernel

/-- The first source and the one that may not be read stay as they are. -/
theorem sources_keep_bytes_at_reportingWords :
    (invoke plainSurroundings threeSources reportingWords).files.bytes? ⟨"a.csv"⟩ =
        some (Utf8.encode "id\n1\n") ∧
      (invoke plainSurroundings threeSources reportingWords).files.bytes? ⟨"c.csv"⟩ =
        some (Utf8.encode "id\n3\n") := by
  have hfirst : threeSources.resolve ⟨"a.csv"⟩ = .ok ["a.csv"] := by rfl
  have hthird : threeSources.resolve ⟨"c.csv"⟩ = .ok ["c.csv"] := by rfl
  have houtput : threeSources.resolve ⟨"out.txt"⟩ = .ok ["out.txt"] := by rfl
  have hreport : threeSources.resolve ⟨"./last"⟩ = .ok ["b.csv"] := by rfl
  have hspares : ∀ p ∈ [(⟨"a.csv"⟩ : Path), ⟨"c.csv"⟩],
      threeSources.Spares reportingArguments.written p := by
    intro p hp q hq
    have hp : p = ⟨"a.csv"⟩ ∨ p = ⟨"c.csv"⟩ := by simpa using hp
    have hq : q = ⟨"out.txt"⟩ ∨ q = ⟨"./last"⟩ := by
      simpa [reportingArguments, Arguments.written, Arguments.usual] using hq
    rcases hp with rfl | rfl <;> rcases hq with rfl | rfl <;>
      simp [hfirst, hthird, houtput, hreport]
  rcases sources_keep_bytes accepts_reportingWords (p := ⟨"a.csv"⟩) (by decide) with
    ⟨first, hfirstBytes, hfirstKept⟩
  rcases sources_keep_bytes accepts_reportingWords (p := ⟨"c.csv"⟩) (by decide) with
    ⟨third, hthirdBytes, hthirdKept⟩
  rw [hfirstKept (hspares _ (by simp)), hthirdKept (hspares _ (by simp)), ← hfirstBytes,
    ← hthirdBytes]
  exact ⟨rfl, rfl⟩

/-- A command line that names its first source as its output, spelled in another way. -/
def overwritingWords : List String := ["csvflow", "-q", "-o", "./a.csv", "a.csv", "b.csv"]

def overwritingArguments : Arguments :=
  { Arguments.usual with
    files := [⟨"a.csv"⟩, ⟨"b.csv"⟩]
    output := some ⟨"./a.csv"⟩
    quiet := true }

/-- The output takes the place of a source that its path leads to: the source is emptied before it
is read, and then holds the lines of the other one. -/
theorem output_replaces_source :
    ¬ ∀ s files words a, Accepts s files words a → ∀ p ∈ a.files,
      (invoke s files words).files.bytes? p = files.bytes? p := by
  intro hkept
  have haccepts : Accepts plainSurroundings threeSources overwritingWords overwritingArguments :=
    { parsed := ⟨overwritingWords, by rfl, by rfl⟩
      checked := by decide +kernel }
  have hsame := hkept _ _ _ _ haccepts ⟨"a.csv"⟩ List.mem_cons_self
  revert hsame
  decide +kernel

end Command
end RecordFlow
