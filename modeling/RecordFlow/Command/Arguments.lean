import RecordFlow.Files.Path
import RecordFlow.Number.Decimal
import RecordFlow.Source.Emission
import RecordFlow.Time.Units

/-!
# Arguments — what a command line asks for

The options of the command are flags, which are there or not, and settings, which have a value.
Each has a long name, some have a letter.  `Arguments.set` gives a setting a value and refuses one
that it cannot have; a setting that is given again takes the later value, except that aliases add
up.
-/

namespace RecordFlow
namespace Command

/-! ## Options -/

inductive Flag where
  | noHeader
  | noValidateHeader
  | strict
  | abortOnError
  | noOutput
  | noProgress
  | verbose
  | quiet
  | ignoreConfig
  | showConfig
  | help
  | version
deriving DecidableEq, Repr, Inhabited

inductive Setting where
  | delimiter
  | buffer
  | workers
  | maxActive
  | maxErrors
  | errorThreshold
  | errorReport
  | output
  | progressInterval
  | logLevel
  | logFormat
  | alias
  | configFile
  | completions
deriving DecidableEq, Repr, Inhabited

inductive Key where
  | flag (flag : Flag)
  | setting (setting : Setting)
deriving DecidableEq, Repr, Inhabited

def longNames : List (String × Key) :=
  [("no-header", .flag .noHeader), ("no-validate-header", .flag .noValidateHeader),
   ("strict", .flag .strict), ("delimiter", .setting .delimiter), ("buffer", .setting .buffer),
   ("workers", .setting .workers), ("max-active", .setting .maxActive),
   ("max-errors", .setting .maxErrors), ("error-threshold", .setting .errorThreshold),
   ("abort-on-error", .flag .abortOnError), ("error-report", .setting .errorReport),
   ("output", .setting .output), ("no-output", .flag .noOutput),
   ("no-progress", .flag .noProgress), ("progress-interval", .setting .progressInterval),
   ("verbose", .flag .verbose), ("quiet", .flag .quiet), ("log-level", .setting .logLevel),
   ("log-format", .setting .logFormat), ("alias", .setting .alias),
   ("config-file", .setting .configFile), ("ignore-config", .flag .ignoreConfig),
   ("show-config", .flag .showConfig), ("completions", .setting .completions),
   ("help", .flag .help), ("version", .flag .version)]

def letters : List (Char × Key) :=
  [('d', .setting .delimiter), ('w', .setting .workers), ('o', .setting .output),
   ('v', .flag .verbose), ('q', .flag .quiet), ('a', .setting .alias), ('h', .flag .help),
   ('V', .flag .version)]

def longKey? (name : String) : Option Key := (longNames.find? fun e => e.1 == name).map (·.2)

def letterKey? (c : Char) : Option Key := (letters.find? fun e => e.1 == c).map (·.2)

/-! ## Errors -/

/-- Why a command line is not carried out. -/
inductive UsageError where
  | help
  | version
  | unknownArgument
  /-- A flag was given a value. -/
  | unneededValue
  /-- A value is missing, empty, or none of those allowed. -/
  | invalidValue
  | rejectedValue (cause : String)
  | conflict
  | missingFiles
  /-- A duration is longer than any. -/
  | overlongDuration
deriving DecidableEq, Repr, Inhabited

namespace UsageError

def message : UsageError → String
  | .help => "help requested"
  | .version => "version requested"
  | .unknownArgument => "unexpected argument found"
  | .unneededValue => "unexpected value for a flag"
  | .invalidValue => "a value is required or not valid"
  | .rejectedValue cause => "invalid value: " ++ cause
  | .conflict => "an argument cannot be used with another one"
  | .missingFiles => "required arguments were not provided"
  | .overlongDuration => "invalid value: " ++ Duration.ReadError.carryOverflow.message

end UsageError

/-! ## Values -/

inductive LogFormat where
  | text
  | json
deriving DecidableEq, Repr, Inhabited

/-- What a command line asks for, with the usual values where it does not say. -/
structure Arguments where
  files : List Path
  noHeader : Bool
  noValidateHeader : Bool
  strict : Bool
  delimiter : UInt8
  buffer : Nat
  workers : Nat
  maxActive : Nat
  maxErrors : Nat
  errorThreshold : Binary64
  abortOnError : Bool
  errorReport : Option Path
  output : Option Path
  noOutput : Bool
  noProgress : Bool
  progressInterval : Duration
  verbose : Bool
  quiet : Bool
  logLevel : Option String
  logFormat : LogFormat
  aliases : List String
  configFile : Option Path
  ignoreConfig : Bool
  showConfig : Bool
  completions : Option String
deriving DecidableEq, Repr, Inhabited

namespace Arguments

def usual : Arguments :=
  { files := []
    noHeader := false
    noValidateHeader := false
    strict := false
    delimiter := 44
    buffer := Source.usualBuffer
    workers := 0
    maxActive := 0
    maxErrors := 0
    errorThreshold := .zero
    abortOnError := false
    errorReport := none
    output := none
    noOutput := false
    noProgress := false
    progressInterval := .ofSecs 1
    verbose := false
    quiet := false
    logLevel := none
    logFormat := .text
    aliases := []
    configFile := none
    ignoreConfig := false
    showConfig := false
    completions := none }

def raise (a : Arguments) : Flag → Except UsageError Arguments
  | .noHeader => .ok { a with noHeader := true }
  | .noValidateHeader => .ok { a with noValidateHeader := true }
  | .strict => .ok { a with strict := true }
  | .abortOnError => .ok { a with abortOnError := true }
  | .noOutput => .ok { a with noOutput := true }
  | .noProgress => .ok { a with noProgress := true }
  | .verbose => .ok { a with verbose := true }
  | .quiet => .ok { a with quiet := true }
  | .ignoreConfig => .ok { a with ignoreConfig := true }
  | .showConfig => .ok { a with showConfig := true }
  | .help => .error .help
  | .version => .error .version

/-! ## Reading values -/

/-- The largest number that a setting takes. -/
def numberLimit : Nat := Nat.pow 2 64 - 1

def readNumber (text : String) : Except UsageError Nat :=
  match Decimal.readNatural numberLimit text with
  | .ok n => .ok n
  | .error e => .error (.rejectedValue e.message)

def readFraction (text : String) : Except UsageError Binary64 :=
  match Decimal.readBinary64 text with
  | .ok x => .ok x
  | .error e => .error (.rejectedValue e.message)

def readDuration (text : String) : Except UsageError Duration :=
  match Duration.read text with
  | .ok d => .ok d
  | .error .carryOverflow => .error .overlongDuration
  | .error e => .error (.rejectedValue e.message)

/-- A path has a text. -/
def readPath (text : String) : Except UsageError Path :=
  if text.isEmpty then .error .invalidValue else .ok ⟨text⟩

/-- One byte, or one of two ways to write a tab. -/
def readDelimiter (text : String) : Except UsageError UInt8 :=
  if text = "\\t" ∨ text = "tab" then .ok 9
  else
    let count := text.utf8ByteSize
    match Utf8.encode text with
    | [b] => .ok b
    | _ =>
      .error (.rejectedValue
        s!"delimiter must be a single byte, got '{text}' ({count} bytes)")

def readLogFormat : String → Except UsageError LogFormat
  | "text" => .ok .text
  | "json" => .ok .json
  | _ => .error .invalidValue

def shells : List String := ["bash", "elvish", "fish", "powershell", "zsh"]

def readShell (text : String) : Except UsageError String :=
  if text ∈ shells then .ok text else .error .invalidValue

def set (a : Arguments) (setting : Setting) (text : String) : Except UsageError Arguments := do
  match setting with
  | .delimiter => pure { a with delimiter := ← readDelimiter text }
  | .buffer => pure { a with buffer := ← readNumber text }
  | .workers => pure { a with workers := ← readNumber text }
  | .maxActive => pure { a with maxActive := ← readNumber text }
  | .maxErrors => pure { a with maxErrors := ← readNumber text }
  | .errorThreshold => pure { a with errorThreshold := ← readFraction text }
  | .errorReport => pure { a with errorReport := some (← readPath text) }
  | .output => pure { a with output := some (← readPath text) }
  | .progressInterval => pure { a with progressInterval := ← readDuration text }
  | .logLevel => pure { a with logLevel := some text }
  | .logFormat => pure { a with logFormat := ← readLogFormat text }
  | .alias => pure { a with aliases := a.aliases ++ [text] }
  | .configFile => pure { a with configFile := some (← readPath text) }
  | .completions => pure { a with completions := some (← readShell text) }

def addFile (a : Arguments) (text : String) : Except UsageError Arguments := do
  pure { a with files := a.files ++ [← readPath text] }

end Arguments
end Command
end RecordFlow
