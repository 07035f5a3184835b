import RecordFlow.LogFilter.Pattern.Mode

/-!
# Pattern escape — what a backslash makes of the characters behind it

An escape stands for a character, for a kind of characters or for a place in the text.  There are no
tables of Unicode properties, so that kinds can be had for ASCII only, with the flag `u` off.
-/

namespace RecordFlow
namespace Pattern

/-- What a single character or an escape stands for. -/
inductive Atom where
  /-- A character; `isByte` when it is written as a byte of two hexadecimal digits. -/
  | literal (c : Char) (isByte : Bool)
  /-- Digits, blanks or letters, or all but those. -/
  | kind (negated : Bool)
  /-- A place in the text; `ofWord` when it is a boundary of a word. -/
  | place (ofWord : Bool)
deriving DecidableEq, Repr

def hexValue? (c : Char) : Option Nat :=
  if '0' ≤ c ∧ c ≤ '9' then some (c.toNat - 48)
  else if 'a' ≤ c ∧ c ≤ 'f' then some (c.toNat - 87)
  else if 'A' ≤ c ∧ c ≤ 'F' then some (c.toNat - 55)
  else none

/-- The character at a code point. -/
def charAt? (n : Nat) : Option Char :=
  if n.isValidChar then some (Char.ofNat n) else none

/-- Reads `count` hexadecimal digits. -/
def readHexDigits (m : Mode) : Nat → Nat → List Char → Except Fault (Nat × List Char)
  | 0, n, cs => pure (n, cs)
  | count + 1, n, cs =>
    match cs with
    | [] => malformed
    | c :: cs =>
      match hexValue? c with
      | none => malformed
      | some d => readHexDigits m count (16 * n + d) (m.skip cs)

/-- Reads hexadecimal digits up to a closing brace; `digits` of them have been read. -/
def readHexBraced (m : Mode) : Nat → Nat → Nat → List Char → Except Fault (Nat × List Char)
  | 0, _, _, _ => malformed
  | fuel + 1, digits, n, cs =>
    match m.skip cs with
    | [] => malformed
    | '\x7d' :: rest => if digits = 0 then malformed else pure (n, m.skip rest)
    | c :: rest =>
      match hexValue? c with
      | none => malformed
      | some d => readHexBraced m fuel (digits + 1) (16 * n + d) rest

/-- Reads a character given by its code point, in a fixed count of digits or in braces. -/
def readHex (m : Mode) (count : Nat) (cs : List Char) : Except Fault (Atom × List Char) := do
  let (n, isByte, rest) ← match ← m.skip? cs with
    | '\x7b' :: rest =>
      let (n, rest) ← readHexBraced m (rest.length + 1) 0 0 rest
      pure (n, false, rest)
    | cs =>
      let (n, rest) ← readHexDigits m count 0 cs
      pure (n, count == 2, rest)
  match charAt? n with
  | some c => pure (.literal c isByte, rest)
  | none => malformed

def isBoundaryNameChar (c : Char) : Bool := c.isAlpha || c == '-'

def readBoundaryName (m : Mode) : Nat → List Char → List Char × List Char
  | 0, cs => ([], cs)
  | fuel + 1, cs =>
    match cs with
    | [] => ([], [])
    | c :: rest =>
      if isBoundaryNameChar c then
        let (name, rest) := readBoundaryName m fuel (m.skip rest)
        (c :: name, rest)
      else ([], cs)

def boundaryNames : List String := ["start", "end", "start-half", "end-half"]

/-- Reads what may tell in braces which boundary of a word is meant.  Braces that do not begin with
a letter are left to what follows. -/
def readBoundary (m : Mode) (cs : List Char) : Except Fault (Atom × List Char) :=
  match cs with
  | '\x7b' :: inner =>
    match m.skip inner with
    | [] => malformed
    | c :: rest =>
      if !isBoundaryNameChar c then pure (.place true, cs)
      else
        match readBoundaryName m (rest.length + 1) (c :: rest) with
        | (name, '\x7d' :: rest) =>
          if boundaryNames.contains (String.ofList name) then pure (.place true, rest)
          else malformed
        | _ => malformed
  | _ => pure (.place true, cs)

def readEscape (m : Mode) : List Char → Except Fault (Atom × List Char)
  | [] => malformed
  | c :: cs =>
    match c with
    | 'x' => readHex m 2 cs
    | 'u' => readHex m 4 cs
    | 'U' => readHex m 8 cs
    | 'd' | 's' | 'w' => pure (.kind false, cs)
    | 'D' | 'S' | 'W' => pure (.kind true, cs)
    | 'a' => pure (.literal '\x07' false, cs)
    | 'f' => pure (.literal '\x0c' false, cs)
    | 't' => pure (.literal '\t' false, cs)
    | 'n' => pure (.literal '\n' false, cs)
    | 'r' => pure (.literal '\r' false, cs)
    | 'v' => pure (.literal '\x0b' false, cs)
    | 'A' | 'z' => pure (.place false, cs)
    | 'b' => readBoundary m cs
    | 'B' | '<' | '>' => pure (.place true, cs)
    | c =>
      -- the letters and digits left have no meaning, and a property needs its table
      if c.isAlphanum || 0x7f < c.toNat then malformed else pure (.literal c false, cs)

end Pattern
end RecordFlow
