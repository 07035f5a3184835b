import RecordFlow.LogFilter.Pattern.Expression
import RecordFlow.Number.Shortest
import RecordFlow.Number.Decimal

/-!
# Field — what a directive asks of the fields of a span

A field is asked for by its name, and may be asked to have a value.  A value is read as the first of
these that it is the text of: a truth value, a natural number, an integer, a number, a pattern.  So
`1` and `01` ask for the same, and `1.0` for something else.
-/

namespace RecordFlow

/-- What the value of a field is asked to be. -/
inductive FieldValue where
  | truth (b : Bool)
  | number (x : Binary64)
  | notANumber
  | natural (n : Nat)
  | integer (i : Int)
  | pattern (text : String)
deriving DecidableEq, Repr

namespace FieldValue

/-! ## Reading -/

def readTruth? : String → Option Bool
  | "true" => some true
  | "false" => some false
  | _ => none

/-- Reads an integer of sixty-four bits below zero, or a negative zero. -/
def readNegative? (cs : List Char) : Option Int :=
  match cs with
  | '-' :: ds =>
    if ds.head? = some '+' then none
    else
      match Decimal.readNatural (Nat.pow 2 63) (String.ofList ds) with
      | .ok n => some (-n)
      | .error _ => none
  | _ => none

def read (cs : List Char) : Except Pattern.Fault FieldValue :=
  let text := String.ofList cs
  match readTruth? text, (Decimal.readNatural (Nat.pow 2 64 - 1) text).toOption, readNegative? cs,
      (Decimal.readBinary64 text).toOption with
  | some b, _, _, _ => .ok (.truth b)
  | none, some n, _, _ => .ok (.natural n)
  | none, none, some i, _ => .ok (.integer i)
  | none, none, none, some x => .ok (if x.isNaN then .notANumber else .number x)
  | none, none, none, none => (Pattern.check cs).map fun _ => .pattern text

/-! ## Writing -/

def text : FieldValue → String
  | .truth b => if b then "true" else "false"
  | .number x => Shortest.text x
  | .notANumber => "NaN"
  | .natural n => toString n
  | .integer i => toString i
  | .pattern text => text

/-! ## Order -/

/-- Kinds of values come in this order. -/
def rank : FieldValue → Nat
  | .truth _ => 0
  | .number _ => 1
  | .notANumber => 2
  | .natural _ => 3
  | .integer _ => 4
  | .pattern _ => 5

/-- The order of values: by kind, then by value.  The two zeros are equal. -/
def compare : FieldValue → FieldValue → Ordering
  | .truth a, .truth b => Ord.compare a b
  | .number a, .number b => (Binary64.compare? a b).getD .eq
  | .natural a, .natural b => Ord.compare a b
  | .integer a, .integer b => Ord.compare a b
  | .pattern a, .pattern b => Ord.compare a b
  | a, b => Ord.compare a.rank b.rank

instance : Ord FieldValue := ⟨compare⟩

end FieldValue

structure FieldMatch where
  name : String
  value : Option FieldValue
deriving DecidableEq, Repr

namespace FieldMatch

/-- Reads a field: a name, and behind an equals sign a value.  What follows a second equals sign
does not count. -/
def read (cs : List Char) : Except Pattern.Fault FieldMatch :=
  match cs.splitOn '=' with
  | name :: value :: _ => (FieldValue.read value).map fun v => ⟨String.ofList name, some v⟩
  | _ => .ok ⟨String.ofList cs, none⟩

def text (f : FieldMatch) : String :=
  match f.value with
  | some value => f.name ++ "=" ++ value.text
  | none => f.name

/-- The order of fields: those without a value come first, then the name counts. -/
def compare (a b : FieldMatch) : Ordering :=
  ((Ord.compare a.value.isSome b.value.isSome).then (Ord.compare a.name b.name)).then
    (Ord.compare a.value b.value)

instance : Ord FieldMatch := ⟨compare⟩

end FieldMatch
end RecordFlow
