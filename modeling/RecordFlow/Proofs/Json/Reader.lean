import RecordFlow.Json.Printer

/-!
# Json reader — what a text says as a value

`Json.read?` takes a text apart as the grammar of JSON has it: white space may stand between tokens,
a string may write any character as an escape, and a character beyond the basic plane as two of
them, and a control character may not stand for itself.  Members of an object are kept in their
order, and none is merged with another.  Of the numbers it knows the natural ones.

The readers take a value from the front of a text and leave the rest.
-/

namespace RecordFlow
namespace Json

abbrev Reader (α : Type) := List Char → Option (α × List Char)

/-! ## Characters -/

def isSpace (c : Char) : Bool := c == ' ' || c == '\t' || c == '\n' || c == '\r'

def skipSpace (text : List Char) : List Char := text.dropWhile isSpace

def hexValue? (c : Char) : Option Nat :=
  if '0' ≤ c ∧ c ≤ '9' then some (c.toNat - 48)
  else if 'a' ≤ c ∧ c ≤ 'f' then some (c.toNat - 87)
  else if 'A' ≤ c ∧ c ≤ 'F' then some (c.toNat - 55)
  else none

/-- What a letter behind a backslash stands for. -/
def unescape? : Char → Option Char
  | '"' => some '"'
  | '\\' => some '\\'
  | '/' => some '/'
  | 'b' => some (Char.ofNat 8)
  | 't' => some '\t'
  | 'n' => some '\n'
  | 'f' => some (Char.ofNat 12)
  | 'r' => some '\r'
  | _ => none

/-- What four hexadecimal digits come to behind the first half of a pair, or behind none: the first
half of another pair, or a character. -/
def joinUnit? (high : Option Nat) (unit : Nat) : Option (Nat ⊕ Char) :=
  match high with
  | none =>
    if 0xD800 ≤ unit ∧ unit < 0xDC00 then some (.inl unit)
    else if 0xDC00 ≤ unit ∧ unit < 0xE000 then none
    else some (.inr (Char.ofNat unit))
  | some high =>
    if 0xDC00 ≤ unit ∧ unit < 0xE000 then
      some (.inr (Char.ofNat (0x10000 + (high - 0xD800) * 0x400 + (unit - 0xDC00))))
    else none

/-! ## Strings -/

/-- Where the reader of a string stands. -/
inductive Scan where
  | plain
  /-- Behind a backslash. -/
  | escape
  /-- Behind some of the digits of a code unit, with the number that they make. -/
  | unit (digits value : Nat)

def push (c : Char) (read : Option (List Char × List Char)) : Option (List Char × List Char) :=
  read.map fun (cs, rest) => (c :: cs, rest)

/-- Reads up to the closing quotation mark, with the first half of a pair before the text if there
is one. -/
def readString : Scan → Option Nat → Reader (List Char)
  | _, _, [] => none
  | .plain, high, c :: rest =>
    if c = '\\' then readString .escape high rest
    else if high.isSome then none
    else if c = '"' then some ([], rest)
    else if c.toNat < 32 then none
    else push c (readString .plain none rest)
  | .escape, high, c :: rest =>
    if c = 'u' then readString (.unit 0 0) high rest
    else if high.isSome then none
    else
      match unescape? c with
      | some meant => push meant (readString .plain none rest)
      | none => none
  | .unit digits value, high, c :: rest =>
    match hexValue? c with
    | none => none
    | some digit =>
      if digits < 3 then readString (.unit (digits + 1) (16 * value + digit)) high rest
      else
        match joinUnit? high (16 * value + digit) with
        | none => none
        | some (.inl half) => readString .plain (some half) rest
        | some (.inr meant) => push meant (readString .plain none rest)

def readQuoted : Reader String := fun text =>
  match skipSpace text with
  | '"' :: rest => (readString .plain none rest).map fun (cs, rest) => (String.ofList cs, rest)
  | _ => none

/-! ## Numbers and words -/

/-- What may not follow a natural number. -/
def continuesNumber (c : Char) : Bool := c.isDigit || c == '.' || c == 'e' || c == 'E'

/-- Reads a natural number, which begins with a zero only if it is zero. -/
def readNatural : Reader Nat := fun text =>
  let digits := text.takeWhile Char.isDigit
  let rest := text.dropWhile Char.isDigit
  if digits = [] ∨ (digits.head? = some '0' ∧ digits ≠ ['0']) ∨ rest.head?.any continuesNumber then
    none
  else some (Nat.ofDigitChars 10 digits 0, rest)

def readWord : List Char → Reader Unit
  | [], text => some ((), text)
  | c :: word, d :: text => if c = d then readWord word text else none
  | _ :: _, [] => none

/-! ## Containers -/

section Sequences

variable {α : Type}

/-- Reads at least one item, with commas between the items, and what closes them. -/
def readItems (item : Reader α) (close : Char) : Nat → Reader (List α)
  | 0, _ => none
  | fuel + 1, text => do
    let (a, rest) ← item text
    match skipSpace rest with
    | [] => none
    | c :: rest =>
      if c = ',' then
        let (others, rest) ← readItems item close fuel rest
        pure (a :: others, rest)
      else if c = close then pure ([a], rest)
      else none

/-- Reads what closes a container, or the items before it; no text has more items than
characters. -/
def readSequence (item : Reader α) (close : Char) : Reader (List α) := fun text =>
  match skipSpace text with
  | [] => none
  | c :: rest => if c = close then some ([], rest) else readItems item close text.length text

end Sequences

/-- Reads a key, a colon and a value. -/
def readMember (value : Reader Json) : Reader (String × Json) := fun text => do
  let (key, rest) ← readQuoted text
  match skipSpace rest with
  | ':' :: rest =>
    let (json, rest) ← value rest
    pure ((key, json), rest)
  | _ => none

/-- Reads a value that is nested to a depth below the given one. -/
def readValue : Nat → Reader Json
  | 0, _ => none
  | depth + 1, text =>
    match skipSpace text with
    | [] => none
    | c :: rest =>
      if c = '"' then (readString .plain none rest).map fun (cs, rest) =>
        (.string (String.ofList cs), rest)
      else if c = '[' then (readSequence (readValue depth) ']' rest).map fun (items, rest) =>
        (.array items, rest)
      else if c = '\x7b' then
        (readSequence (readMember (readValue depth)) '\x7d' rest).map fun (members, rest) =>
          (.object members, rest)
      else if c = 'n' then (readWord "ull".toList rest).map fun (_, rest) => (.null, rest)
      else if c = 't' then (readWord "rue".toList rest).map fun (_, rest) => (.bool true, rest)
      else if c = 'f' then (readWord "alse".toList rest).map fun (_, rest) => (.bool false, rest)
      else (readNatural (c :: rest)).map fun (n, rest) => (.natural n, rest)

def read? (text : String) : Option Json :=
  match readValue text.length text.toList with
  | none => none
  | some (json, rest) => if skipSpace rest = [] then some json else none

end Json
end RecordFlow
