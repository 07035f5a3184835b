import RecordFlow.Command.Parser
import RecordFlow.Command.Settings
import RecordFlow.Config.Expansion
import RecordFlow.Config.Lookup
import RecordFlow.LogFilter.Basic

/-!
# Invocation — a command carried out on a tree of files

The words of a command line are completed from the configuration, read, and carried out.  What an
invocation comes to is a status, the texts on both output streams, and the files as they are then.

* `customConfig?` and `ignoresConfig` look for the options on configuration in the raw words,
* `complete` puts default arguments and aliases into place,
* `carryOut` does what the arguments ask for,
* `invoke` is all of it.
-/

namespace RecordFlow
namespace Command

structure Surroundings where
  environment : Environment
  /-- The log filters that the surroundings name, the first one first. -/
  logFilters : List (Option String)
  /-- The usual number of workers. -/
  processors : Nat
  /-- Whether progress is shown on a terminal. -/
  terminal : Bool
  /-- When the run begins and ends. -/
  start : Instant
  finish : Instant
  standardOutput : Sink := .reliable

/-- What an invocation comes to; `refused` is the reason why the command line was not carried
out. -/
structure Effect where
  status : ExitStatus
  output : String
  errors : String
  files : Files
  refused : Option UsageError

/-! ## Configuration -/

def customConfig? : List String → Option Path
  | word :: next :: rest =>
    if word = "--config-file" then some ⟨next⟩ else customConfig? (next :: rest)
  | _ => none

def ignoresConfig (words : List String) : Bool := words.contains "--ignore-config"

/-- The words with default arguments and aliases in place. -/
def complete (s : Surroundings) (files : Files) (words : List String) :
    Except String (List String) :=
  if ignoresConfig words then .ok words
  else
    match Config.load files s.environment (customConfig? words) with
    | .error message => .error ("Config file error: " ++ message)
    | .ok config =>
      match config.process words with
      | .error e => .error ("Config error: " ++ e.message)
      | .ok words => .ok words

/-- The paths that a command line names. -/
def namedPaths (s : Surroundings) (files : Files) (words : List String) : List Path :=
  match complete s files words with
  | .error _ => []
  | .ok words =>
    match parse words with
    | .error _ => []
    | .ok a => a.files ++ a.output.toList ++ a.errorReport.toList

/-! ## Texts -/

def complaint (text : String) : String := "csvflow: " ++ text ++ "\n"

def failure (text : String) : String := complaint ("Error: " ++ text)

/-- A number in a column of eight characters. -/
def column (n : Nat) : String :=
  let digits := Nat.toDigits 10 n
  String.ofList (List.replicate (8 - digits.length) ' ' ++ digits)

def padRight (width : Nat) (text : String) : String :=
  text ++ String.ofList (List.replicate (width - text.length) ' ')

/-- What every source and every worker came to. -/
def breakdown (r : Run) : String :=
  let source (s : String × Tracker) : String :=
    let counts := s.2.counts
    "  " ++ padRight 24 s.1 ++ " processed " ++ column counts.processed ++ ", success " ++
      column counts.success ++ ", failed " ++ column counts.failed ++ "\n"
  let worker (i : Nat) (w : Worker) : String :=
    "  worker " ++ padRight 3 (toString i) ++ " processed " ++ column w.processed ++
      ", failed " ++ column w.failed ++ "\n"
  "\nPer-file results:\n" ++ String.join (r.ledger.board.sources.map source) ++
    "Per-worker results:\n" ++ String.join (r.workers.mapIdx worker)

/-! ## Carrying out -/

/-- The files with an empty file for the lines, if they go to one. -/
def openTarget (files : Files) : Target → Except String Files
  | .file p => createOutput files p
  | _ => .ok files

def outputOf (s : Surroundings) : Target → Output
  | .nowhere => .none
  | .standardOutput => .ofSink s.standardOutput
  | .file _ => .ofSink .reliable

/-- The files with the lines in place, if they go to one. -/
def deliver (files : Files) (lines : List String) : Target → Files
  | .file p =>
    match writeLines files p lines with
    | .ok files => files
    | .error _ => files
  | _ => files

/-- The status and the text at the end of a run. -/
def verdict (r : Run) (outcome : Except FlowError Unit) : ExitStatus × String :=
  match r.signalStatus?, outcome with
  | some status, _ => (status, "")
  | none, .ok () => (.success, "")
  | none, .error .aborted =>
    (.failure, complaint "processing aborted: error threshold exceeded")
  | none, .error e => (.failure, failure ("Pipeline execution failed: " ++ e.message))

/-- The files with the report of errors in place, if there is to be one. -/
def exportErrors (files : Files) (r : Run) : Option Path → Except String Files
  | none => .ok files
  | some p =>
    match Report.write r.ledger.collector files p with
    | .ok files => .ok files
    | .error message => .error ("Failed to export error report to " ++ p.text ++ ": " ++ message)

/-- The lines as text, if they go to standard output. -/
def printed (lines : List String) : Target → String
  | .standardOutput => unlines lines
  | _ => ""

/-- What a run comes to that has returned; `banner` has been said before it. -/
def conclude (settings : Settings) (files : Files) (banner : String) (run : Run)
    (outcome : Except FlowError Unit) : Effect :=
  let loud (text : String) : String := if settings.quiet then "" else text
  let lines := run.ledger.output.lines
  let output := printed lines settings.target
  let files := deliver files lines settings.target
  let said := banner ++ run.progressText ++ run.report
  match exportErrors files run settings.errorReport with
  | .error message => ⟨.failure, output, said ++ failure message, files, none⟩
  | .ok files =>
    let summary := loud run.ledger.summary.snapshot.block
    let details := if settings.verbose then loud (breakdown run) else ""
    let (status, text) := verdict run outcome
    ⟨status, output, said ++ summary ++ details ++ text, files, none⟩

def makeRun (s : Surroundings) (settings : Settings) (files : Files) : Effect :=
  let banner := if settings.quiet then "" else settings.banner
  match openTarget files settings.target with
  | .error message => ⟨.failure, "", banner ++ failure message, files, none⟩
  | .ok files =>
    let run := Run.ofOptions settings.run (outputOf s settings.target) s.start
    match run.perform validator files s.start s.finish with
    | .returned run outcome => conclude settings files banner run outcome
    | .exited status lines =>
      ⟨status, printed lines settings.target, banner, deliver files lines settings.target, none⟩
    | .panicked text l =>
      let lines := l.output.lines
      ⟨.crashed, printed lines settings.target, banner ++ l.board.overall.text ++ text ++ "\n",
        deliver files lines settings.target, none⟩

def carryOut (s : Surroundings) (files : Files) (a : Arguments) : Effect :=
  if a.showConfig then ⟨.success, Config.describe files s.environment, "", files, none⟩
  else if a.completions.isSome then ⟨.success, "", "", files, none⟩
  else
    match LogFilter.build a.logLevel s.logFilters with
    | .error (.crashed fault) => ⟨.crashed, "", fault.message ++ "\n", files, none⟩
    | .error e => ⟨.failure, "", failure e.message, files, none⟩
    | .ok _ =>
      let settings := Settings.ofArguments a s.processors s.terminal
      match settings.fault? files with
      | some fault => ⟨.usage, "", failure fault.message, files, none⟩
      | none => makeRun s settings files

def refuse (files : Files) (e : UsageError) : Effect :=
  match e with
  | .help => ⟨.success, "", "", files, some .help⟩
  | .version => ⟨.success, Settings.version ++ "\n", "", files, some .version⟩
  | e => ⟨.usage, "", "error: " ++ e.message ++ "\n", files, some e⟩

/-- Carries out a command line, the first word of which is the name of the program. -/
def invoke (s : Surroundings) (files : Files) (words : List String) : Effect :=
  match complete s files words with
  | .error message => ⟨.failure, "", failure message, files, none⟩
  | .ok words =>
    match parse words with
    | .error e => refuse files e
    | .ok a => carryOut s files a

end Command
end RecordFlow
