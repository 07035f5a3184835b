/-!
# Utf8 — text from bytes

Bytes are read one at a time; between two bytes a `Sequence` holds what the character begun still
needs.  `decode` refuses bytes that are no text and tells where the text stops being good,
`decodeLossy` puts a replacement character in place of every longest piece that begins a character
and does not finish one.
-/

namespace RecordFlow
namespace Utf8

/-- A character begun: its value so far, how many bytes it still needs, and the range that the next
one has to lie in. -/
structure Sequence where
  value : Nat
  missing : Nat
  low : UInt8
  high : UInt8

/-- What one more byte makes of the characters read. -/
inductive Step where
  | char (c : Char)
  | open (s : Sequence)
  | bad

/-- The first byte of a character. -/
def begin (b : UInt8) : Step :=
  let lead (value missing : Nat) (low high : UInt8) : Step := .open ⟨value, missing, low, high⟩
  let n := b.toNat
  if n < 0x80 then .char (Char.ofNat n)
  else if n < 0xc2 then .bad
  else if n < 0xe0 then lead (n - 0xc0) 1 0x80 0xbf
  else if n = 0xe0 then lead 0 2 0xa0 0xbf
  else if n = 0xed then lead 0xd 2 0x80 0x9f
  else if n < 0xf0 then lead (n - 0xe0) 2 0x80 0xbf
  else if n = 0xf0 then lead 0 3 0x90 0xbf
  else if n < 0xf4 then lead (n - 0xf0) 3 0x80 0xbf
  else if n = 0xf4 then lead 4 3 0x80 0x8f
  else .bad

/-- A further byte of a character. -/
def Sequence.feed (s : Sequence) (b : UInt8) : Step :=
  if b < s.low || s.high < b then .bad
  else
    let value := s.value * 64 + (b.toNat - 0x80)
    if s.missing ≤ 1 then .char (Char.ofNat value)
    else .open ⟨value, s.missing - 1, 0x80, 0xbf⟩

/-- Decodes bytes; `good` counts the bytes of the characters finished, `read` all bytes before. -/
def decodeFrom (good read : Nat) (current : Option Sequence) (acc : List Char) :
    List UInt8 → Except Nat (List Char)
  | [] => if current.isSome then .error good else .ok acc.reverse
  | b :: rest =>
    let step := match current with
      | none => begin b
      | some s => s.feed b
    match step with
    | .char c => decodeFrom (read + 1) (read + 1) none (c :: acc) rest
    | .open s => decodeFrom good (read + 1) (some s) acc rest
    | .bad => .error good

/-- The text of bytes, or the count of bytes before the first that belong to no character. -/
def decode (bytes : List UInt8) : Except Nat String :=
  (decodeFrom 0 0 none [] bytes).map String.ofList

def replacement : Char := Char.ofNat 0xfffd

def decodeLossyFrom (current : Option Sequence) (acc : List Char) : List UInt8 → List Char
  | [] => (if current.isSome then replacement :: acc else acc).reverse
  | b :: rest =>
    let fresh (acc : List Char) : List Char × Option Sequence :=
      match begin b with
      | .char c => (c :: acc, none)
      | .open s => (acc, some s)
      | .bad => (replacement :: acc, none)
    let (acc, next) := match current with
      | none => fresh acc
      | some s =>
        match s.feed b with
        | .char c => (c :: acc, none)
        | .open s => (acc, some s)
        | .bad => fresh (replacement :: acc)
    decodeLossyFrom next acc rest

/-- The text of bytes, with replacement characters for what is no text. -/
def decodeLossy (bytes : List UInt8) : String :=
  String.ofList (decodeLossyFrom none [] bytes)

def encode (text : String) : List UInt8 := text.toUTF8.toList

end Utf8
end RecordFlow
