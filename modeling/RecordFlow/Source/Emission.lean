import RecordFlow.Csv.Tokenizer
import RecordFlow.Header
import RecordFlow.Record
import RecordFlow.Source.Input
import RecordFlow.Source.Name

/-!
# Emission — what a source gives to a run

An opened source has a header, if its first row is one, and rows up to a fault.  Every row is
emitted as a record, or rejected with an error; an error of the source itself is its last emission.

* `Opened.ofPath` is what opening a source and reading its header come to,
* `Opened.body` is what the rows give,
* `readAll` is what every source of a list gives: the body, unless the header differs from that of
  the first source before it which has one.
-/

namespace RecordFlow
namespace Source

/-! ## Emissions -/

structure Options where
  hasHeader : Bool
  /-- Whether all sources have to carry the header of the first. -/
  validateHeader : Bool
  /-- Whether a source ends at its first malformed record. -/
  strict : Bool
  delimiter : UInt8
deriving DecidableEq, Repr

def Options.standard : Options := ⟨true, true, false, 44⟩

/-- The usual number of records that wait for a worker. -/
def usualBuffer : Nat := 100

/-- The number of records that can wait for a worker; zero stands for the usual number. -/
def bufferSize (size : Nat) : Nat := if size = 0 then usualBuffer else size

inductive Emission where
  | record (r : Record)
  | rejected (error : FlowError) (r : Record)
  /-- The source ends with an error. -/
  | failure (error : FlowError)
deriving DecidableEq, Repr, Inhabited

namespace Emission

def record? : Emission → Option Record
  | .record r => some r
  | _ => none

/-- The error of an emission, with the record that it rejects. -/
def error? : Emission → Option (FlowError × Option Record)
  | .record _ => none
  | .rejected error r => some (error, some r)
  | .failure error => some (error, none)

end Emission

/-! ## Opening -/

/-- A source behind its header: the rows that can be read, and the fault that ends them. -/
structure Opened where
  name : String
  header : Option (List String)
  rows : List Csv.Row
  fault : Option FlowError
deriving DecidableEq, Repr

namespace Opened

/-- Takes the first of the rows as the header, if there has to be one. -/
def ofTokens (options : Options) (name : String) (tokens : Csv.Tokens) :
    Except FlowError Opened :=
  if options.hasHeader then
    match tokens.rows, tokens.fault with
    | [], some fault => .error (.context "read_header" name 1 fault)
    | [], none => .error (.context "read_header" name 0 .emptyFile)
    | row :: rows, fault =>
      match Header.validate row.fields with
      | .error e => .error (.context "validate_header" name row.line e)
      | .ok () => .ok ⟨name, some row.fields, rows, fault⟩
  else .ok ⟨name, none, tokens.rows, tokens.fault⟩

def ofPath (options : Options) (files : Files) (name : String) (p : Path) :
    Except FlowError Opened :=
  match Input.ofPath .portions files p with
  | .error e => .error (.context "read" name 0 e)
  | .ok input =>
    ofTokens options name (Csv.tokenize options.delimiter input.lead input.bytes input.fault)

/-! ## Rows -/

/-- What a fault after a row of the line `line` gives. -/
def faultAfter (o : Opened) (line : Nat) : List Emission :=
  match o.fault with
  | some fault => [.failure (.context "read_record" o.name (line + 1) fault)]
  | none => []

/-- What rows give that come after a row of the line `line`. -/
def bodyFrom (options : Options) (o : Opened) (line : Nat) : List Csv.Row → List Emission
  | [] => o.faultAfter line
  | row :: rest =>
    let r : Record := ⟨row.line, o.name, row.fields, o.header⟩
    match r.validate with
    | .ok () => .record r :: bodyFrom options o row.line rest
    | .error e =>
      let error : FlowError := .context "read_record" o.name row.line e
      if options.strict then [.failure error]
      else .rejected error r :: bodyFrom options o row.line rest

/-- What the rows of a source give. -/
def body (options : Options) (o : Opened) : List Emission :=
  bodyFrom options o (if o.header.isSome then 1 else 0) o.rows

/-! ## Agreement -/

/-- The header that a source offers for comparison. -/
def agreed? (options : Options) (o : Opened) : Option (List String) :=
  if options.validateHeader then o.header else none

/-- The error of a source whose header is not the one expected of it. -/
def mismatch? (expected : Option (List String)) (o : Opened) : Option FlowError :=
  match expected, o.header with
  | some expected, some actual =>
    if expected = actual then none
    else some (.context "validate_header" o.name 0 (.headerMismatch expected actual))
  | _, _ => none

end Opened

/-- What a source gives of which `expected` is the header expected. -/
def emissions (options : Options) (expected : Option (List String)) :
    Except FlowError Opened → List Emission
  | .error e => [.failure e]
  | .ok o =>
    match o.mismatch? expected with
    | some e => [.failure e]
    | none => o.body options

/-! ## Lists of sources -/

/-- What every source of a list gives, behind sources of which `expected` is the first header. -/
def emissionsFrom (options : Options) (expected : Option (List String)) :
    List (Except FlowError Opened) → List (List Emission)
  | [] => []
  | source :: rest =>
    let own := match source with
      | .ok o => o.agreed? options
      | .error _ => none
    emissions options expected source :: emissionsFrom options (expected <|> own) rest

def openAll (options : Options) (files : Files) (paths : List Path) :
    List (Except FlowError Opened) :=
  (paths.zip (names paths)).map fun (p, name) => Opened.ofPath options files name p

/-- What every source of a list gives; under cancellation that is nothing. -/
def readAll (options : Options) (cancelled : Bool) (files : Files) (paths : List Path) :
    List (List Emission) :=
  if cancelled then paths.map fun _ => []
  else emissionsFrom options none (openAll options files paths)

/-- The records of one source, or the first error that it gives. -/
def readSingle (hasHeader cancelled : Bool) (files : Files) (p : Path) :
    Except FlowError (List Record) :=
  if cancelled then .error .cancelled
  else
    let all := (readAll { Options.standard with hasHeader } false files [p]).flatten
    match all.findSome? Emission.error? with
    | some (error, _) => .error error
    | none => .ok (all.filterMap Emission.record?)

end Source
end RecordFlow
