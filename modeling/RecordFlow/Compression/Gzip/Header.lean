import RecordFlow.Compression.Checksum

/-!
# Gzip header — what a member tells in front of its data

A header has ten bytes and the fields that its flags announce: extra data, a name, a comment and a
check of the header itself.  Nothing of it but its size matters for the data.
-/

namespace RecordFlow
namespace Gzip

/-! ## Faults -/

inductive Fault where
  | endOfFile
  | header
  | fieldTooLong
  | checksum
  | corruptData
  | incompleteData
deriving DecidableEq, Repr

def Fault.message : Fault → String
  | .endOfFile => "unexpected end of file"
  | .header => "invalid gzip header"
  | .fieldTooLong => "gzip header field too long"
  | .checksum => "corrupt gzip stream does not have a matching checksum"
  | .corruptData => "corrupt deflate stream"
  | .incompleteData => "incomplete deflate stream"

/-! ## Headers -/

/-- Drops bytes that have to be there. -/
def skip (n : Nat) (bytes : List UInt8) : Except Fault (List UInt8) :=
  if bytes.length < n then .error .endOfFile else .ok (bytes.drop n)

def textLimit : Nat := 65535

/-- Drops a text with the zero that ends it. -/
def skipText (bytes : List UInt8) : Except Fault (List UInt8) :=
  if textLimit < (bytes.takeWhile (· ≠ 0)).length then .error .fieldTooLong
  else skip 1 (bytes.dropWhile (· ≠ 0))

/-- A field that is there if its flag is set. -/
def optional (flags : UInt8) (flag : Nat) (field : List UInt8 → Except Fault (List UInt8))
    (bytes : List UInt8) : Except Fault (List UInt8) :=
  if flags.toNat.testBit flag then field bytes else .ok bytes

/-- Extra data, led by its length. -/
def skipExtra (bytes : List UInt8) : Except Fault (List UInt8) := do
  let rest ← skip 2 bytes
  skip (Checksum.littleEndian (bytes.take 2)) rest

/-- The check of the header: the low half of the checksum of all bytes before it. -/
def skipHeaderCheck (whole bytes : List UInt8) : Except Fault (List UInt8) := do
  let rest ← skip 2 bytes
  let before := whole.take (whole.length - bytes.length)
  let expected := (Checksum.crc32 before).toNat % Nat.pow 2 16
  if Checksum.littleEndian (bytes.take 2) = expected then pure rest else throw .checksum

/-- The bytes behind the header of a member. -/
def skipHeader (bytes : List UInt8) : Except Fault (List UInt8) := do
  let rest ← skip 10 bytes
  match bytes with
  | 0x1f :: 0x8b :: 0x08 :: flags :: _ =>
    if 32 ≤ flags.toNat then throw .header
    let rest ← optional flags 2 skipExtra rest
    let rest ← optional flags 3 skipText rest
    let rest ← optional flags 4 skipText rest
    optional flags 1 (skipHeaderCheck bytes) rest
  | _ => throw .header

end Gzip
end RecordFlow
