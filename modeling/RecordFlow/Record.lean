import RecordFlow.Error
import RecordFlow.Json.Value

/-!
# Record — one row of a source

A record is a row with the place it came from and the header of its source.  It is complete when it
has a field, and one for every column of the header.  Its JSON form is an object keyed by the header
names, or an array of the fields when there is no header.
-/

namespace RecordFlow

/-- One row of a source; `header` is shared by the rows of the source. -/
structure Record where
  line : Nat
  source : String
  fields : List String
  header : Option (List String)
deriving DecidableEq, Repr, Inhabited

namespace Record

def columns (r : Record) : List String := r.header.getD []

def field? (r : Record) (index : Nat) : Option String := r.fields[index]?

/-- The field in the first column of a name. -/
def fieldByName? (r : Record) (name : String) : Option String :=
  if name ∈ r.columns then r.field? (r.columns.idxOf name) else none

/-- At least one field, and exactly one for every header column when there is a header. -/
def isComplete (r : Record) : Bool :=
  !r.fields.isEmpty && (r.columns.isEmpty || r.columns.length == r.fields.length)

def toJson (r : Record) : Json :=
  if r.columns.isEmpty then .array (r.fields.map .string)
  else .ofMembers ((r.columns.zip r.fields).map fun (name, value) => (name, .string value))

/-- Where a record stands, as messages name it. -/
def place (r : Record) : String := s!"(line {r.line} in {r.source})"

/-- A record must have a field, and as many fields as the header has columns. -/
def validate (r : Record) : Except FlowError Unit :=
  if r.fields.isEmpty then
    .error (.invalidRecord ("record has no data " ++ r.place))
  else
    let expected := r.columns.length
    let actual := r.fields.length
    if 0 < expected ∧ actual ≠ expected then
      .error (.invalidRecord
        (s!"field count mismatch: expected {expected} fields, got {actual} " ++ r.place))
    else .ok ()

end Record
end RecordFlow
