import RecordFlow.Command.Arguments
import RecordFlow.Run.Basic

/-!
# Settings — what a run needs to know

Settings are made from the arguments of a command line and checked before a run: the sources have to
be files, and numbers have to lie in their ranges.
-/

namespace RecordFlow
namespace Command

/-- Where the lines of a run go. -/
inductive Target where
  | standardOutput
  | file (p : Path)
  | nowhere
deriving DecidableEq, Repr, Inhabited

structure Settings where
  run : RunOptions
  target : Target
  errorReport : Option Path
  progress : Bool
  progressInterval : Duration
  verbose : Bool
  quiet : Bool

namespace Settings

def targetOf (a : Arguments) : Target :=
  if a.noOutput then .nowhere
  else match a.output with
    | some p => .file p
    | none => .standardOutput

/-- The settings that arguments ask for; `processors` is the usual number of workers. -/
def ofArguments (a : Arguments) (processors : Nat) (terminal : Bool) : Settings :=
  let progress := !a.noProgress && !a.quiet
  { run :=
      { reading := ⟨!a.noHeader, !a.noValidateHeader, a.strict, a.delimiter⟩
        sources := a.files
        buffer := a.buffer
        pool := ⟨if a.workers = 0 then processors else a.workers, 0, 0, a.maxActive⟩
        tolerance := ⟨a.maxErrors, a.errorThreshold, a.abortOnError⟩
        progress := ⟨progress, terminal, a.verbose, 0⟩
        reports := !a.quiet
        signals := true }
    target := targetOf a
    errorReport := a.errorReport
    progress
    progressInterval := a.progressInterval
    verbose := a.verbose
    quiet := a.quiet }

/-! ## Checks -/

/-- The most workers of a run. -/
def workerLimit : Nat := 1024

/-- Why a run cannot be made. -/
inductive Fault where
  | noSources
  | notFound (p : Path)
  | notFile (p : Path)
  | threshold (x : Binary64)
  | noThreshold
  | workers (n : Nat)
  | noBuffer
  | noInterval
deriving DecidableEq, Repr

def Fault.message : Fault → String
  | .noSources => "no input files given"
  | .notFound p => "file not found: " ++ p.text
  | .notFile p => "not a file: " ++ p.text
  | .threshold x => "error threshold must be between 0.0 and 1.0, got " ++ Shortest.text x
  | .noThreshold => "--abort-on-error requires a non-zero --error-threshold"
  | .workers n => s!"worker count must be at most {workerLimit}, got {n}"
  | .noBuffer => "buffer size must be at least 1"
  | .noInterval => "progress interval must be greater than zero"

/-- The first source that is no file. -/
def badSource? (files : Files) (sources : List Path) : Option Fault :=
  sources.findSome? fun p =>
    if !files.contains p then some (.notFound p)
    else if files.isDirectory p then some (.notFile p)
    else none

def one : Binary64 := .ofNat 1

def isFraction (x : Binary64) : Bool := Binary64.ble .zero x && Binary64.ble x one

/-- The first fault of the settings. -/
def fault? (s : Settings) (files : Files) : Option Fault :=
  let tolerance := s.run.tolerance
  if s.run.sources.isEmpty then some .noSources
  else
    match badSource? files s.run.sources with
    | some fault => some fault
    | none =>
      if !isFraction tolerance.threshold then some (.threshold tolerance.threshold)
      else if tolerance.enforced && tolerance.threshold.beqNumber .zero then some .noThreshold
      else if workerLimit < s.run.pool.workers then some (.workers s.run.pool.workers)
      else if s.run.buffer = 0 then some .noBuffer
      else if s.progressInterval.isZero then some .noInterval
      else none

/-! ## Banner -/

def version : String := "csvflow 0.3.0"

def banner (s : Settings) : String :=
  let threshold := s.run.tolerance.threshold
  let limit :=
    if Binary64.blt .zero threshold then
      ["Error Threshold: " ++ Fixed.text 1 (threshold * .ofNat 100) ++ "%"]
    else []
  let file := match s.target with
    | .file p => ["Output File:     " ++ p.text]
    | _ => []
  let lines :=
    [rule, version ++ " starting", rule,
     "Files:           " ++ toString s.run.sources.length,
     "Workers:         " ++ toString s.run.pool.workers,
     "Buffer Size:     " ++ toString (Source.bufferSize s.run.buffer),
     "Has Header:      " ++ (if s.run.reading.hasHeader then "true" else "false")] ++
    limit ++ file ++ [rule, ""]
  String.intercalate "\n" lines ++ "\n"

end Settings
end Command
end RecordFlow
