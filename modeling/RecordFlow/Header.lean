import RecordFlow.Error
import RecordFlow.Text.Blank
import RecordFlow.Text.Letter
import RecordFlow.Text.Lowercase

/-!
# Header — the names of the columns

A header has a name at least, no blank names, no two names that differ in case or outer blanks only,
and no characters but letters, digits, space, underscore and hyphen.  `Header.validate` goes through
the names from the left and reports the first that breaks a rule; at one name a blank comes before
a duplicate, and that before a character.
-/

namespace RecordFlow
namespace Header

def isNameChar (c : Char) : Bool :=
  Letter.isAlphanumeric c || c == '_' || c == '-' || c == ' '

/-- Whether a name has characters of a column name only. -/
def isName (name : String) : Bool := name.toList.all isNameChar

/-- What two names of one header must not share. -/
def key (name : String) : String := Lowercase.text (Blank.trim name)

/-- A rule that a column name breaks. -/
inductive Fault where
  | blank
  | duplicate
  | characters
deriving DecidableEq, Repr

def Fault.message : Fault → String
  | .blank => "empty header name"
  | .duplicate => "duplicate header name"
  | .characters => "header name contains invalid characters"

/-- The rule that a name breaks behind names with the keys `seen`. -/
def fault? (seen : List String) (name : String) : Option Fault :=
  if Blank.isBlankText name then some .blank
  else if key name ∈ seen then some .duplicate
  else if isName name then none
  else some .characters

def columnError (column : Nat) (name : String) (fault : Fault) : FlowError :=
  .validation s!"column {column}" name fault.message

/-- Goes through the names from the column `column` on. -/
def validateFrom (column : Nat) (seen : List String) : List String → Except FlowError Unit
  | [] => .ok ()
  | name :: rest =>
    match fault? seen name with
    | some fault => .error (columnError column name fault)
    | none => validateFrom (column + 1) (key name :: seen) rest

def validate (names : List String) : Except FlowError Unit :=
  if names.isEmpty then .error (.invalidCsv "header row is empty") else validateFrom 1 [] names

end Header
end RecordFlow
