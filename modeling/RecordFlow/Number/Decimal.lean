import RecordFlow.Number.Binary64

/-!
# Decimal — reading numbers from text

`readNatural` reads a natural number of a bounded size, `readBinary64` the decimal text of a number.
Both say why a text is refused, and both take ASCII digits only: the grammar of a number admits no
other digit.
-/

namespace RecordFlow
namespace Decimal

inductive ReadError where
  | emptyNatural
  | invalidDigit
  | tooLarge
  | emptyDecimal
  | invalidDecimal
deriving DecidableEq, Repr

def ReadError.message : ReadError → String
  | .emptyNatural => "cannot parse integer from empty string"
  | .invalidDigit => "invalid digit found in string"
  | .tooLarge => "number too large to fit in target type"
  | .emptyDecimal => "cannot parse float from empty string"
  | .invalidDecimal => "invalid float literal"

def digit? (c : Char) : Option Nat :=
  if '0' ≤ c ∧ c ≤ '9' then some (c.toNat - '0'.toNat) else none

/-- The value of a list of digits, `none` when one of them is not a digit. -/
def digitsValue? (cs : List Char) : Option Nat :=
  cs.foldl (fun acc c => acc.bind fun n => (digit? c).map (10 * n + ·)) (some 0)

/-! ## Natural numbers -/

/-- Digit by digit: the first fault met from the left is the one reported. -/
def readDigits (limit : Nat) : Nat → List Char → Except ReadError Nat
  | n, [] => .ok n
  | n, c :: cs =>
    match digit? c with
    | none => .error .invalidDigit
    | some d =>
      let next := 10 * n + d
      if limit < next then
        -- a later character that is no digit is not looked at once the value has overflowed
        .error .tooLarge
      else readDigits limit next cs

/-- Reads a natural number up to `limit`, with an optional plus sign. -/
def readNatural (limit : Nat) (text : String) : Except ReadError Nat :=
  match text.toList with
  | [] => .error .emptyNatural
  | ['+'] => .error .invalidDigit
  | '+' :: cs => readDigits limit 0 cs
  | cs => readDigits limit 0 cs

/-! ## Decimal numbers -/

/-- The number nearest to `± digits * 10 ^ scale`. -/
def nearest (negative : Bool) (digits : Nat) (scale : Int) : Binary64 :=
  let magnitude : Int := (Nat.toDigits 10 digits).length + scale
  if digits = 0 then .finite negative 0 (-1074)
  else if 400 < magnitude then .infinite negative
  else if magnitude < -400 then .finite negative 0 (-1074)
  else Binary64.ofRatio negative (digits * Nat.pow 10 scale.toNat) (Nat.pow 10 (-scale).toNat)

def readExponent? (cs : List Char) : Option Int :=
  let read (sign : Int) (ds : List Char) : Option Int :=
    if ds.isEmpty then none else (digitsValue? ds).map (sign * ·)
  match cs with
  | '-' :: ds => read (-1) ds
  | '+' :: ds => read 1 ds
  | ds => read 1 ds

/-- Reads digits, a point and an exponent, in that order; the mantissa has a digit. -/
def readUnsigned? (negative : Bool) (cs : List Char) : Option Binary64 :=
  let isMark (c : Char) : Bool := c == 'e' || c == 'E'
  let mantissa := cs.takeWhile fun c => !isMark c
  let whole := mantissa.takeWhile (· != '.')
  let fraction := (mantissa.dropWhile (· != '.')).drop 1
  let scale? : Option Int :=
    match cs.dropWhile fun c => !isMark c with
    | [] => some 0
    | _ :: rest => readExponent? rest
  if whole.isEmpty && fraction.isEmpty then none
  else do
    let digits ← digitsValue? (whole ++ fraction)
    let scale ← scale?
    pure (nearest negative digits (scale - fraction.length))

/-- Reads a decimal number, the words for infinity, or the word for not-a-number. -/
def readBinary64 (text : String) : Except ReadError Binary64 :=
  let signed (negative : Bool) (cs : List Char) : Except ReadError Binary64 :=
    match String.ofList (cs.map Char.toLower) with
    | "inf" | "infinity" => .ok (.infinite negative)
    | "nan" => .ok (.nan negative)
    | _ =>
      match readUnsigned? negative cs with
      | some x => .ok x
      | none => .error .invalidDecimal
  match text.toList with
  | [] => .error .emptyDecimal
  | '-' :: cs => signed true cs
  | '+' :: cs => signed false cs
  | cs => signed false cs

end Decimal
end RecordFlow
