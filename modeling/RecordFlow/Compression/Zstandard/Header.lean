import RecordFlow.Compression.Checksum

/-!
# Zstandard header — what a frame tells in front of its data

A frame begins with a magic number, a descriptor and the fields that the descriptor announces: how
large a window its data needs, how much data there is, whether a dictionary is needed and whether
the data can be checked.  A frame of another kind is skipped.  `heading` reads a header, or tells
how many bytes it takes to say more.
-/

namespace RecordFlow
namespace Zstandard

/-! ## Faults -/

inductive Fault where
  | incomplete
  | unknownFrame
  | unsupported
  | tooMuchMemory
  | dictionary
  | dictionaryCorrupt
  | corrupt
  | literalsHeader
  | wrongSize
  | noRoom
  | checksum
deriving DecidableEq, Repr

def Fault.message : Fault → String
  | .incomplete => "incomplete frame"
  | .unknownFrame => "Unknown frame descriptor"
  | .unsupported => "Unsupported frame parameter"
  | .tooMuchMemory => "Frame requires too much memory for decoding"
  | .dictionary => "Dictionary mismatch"
  | .dictionaryCorrupt => "Dictionary is corrupted"
  | .corrupt => "Data corruption detected"
  | .literalsHeader => "Header of Literals' block doesn't respect format specification"
  | .wrongSize => "Src size is incorrect"
  | .noRoom => "Destination buffer is too small"
  | .checksum => "Restored data doesn't match checksum"

/-! ## Frame headers -/

def frameMagic : List UInt8 := [0x28, 0xb5, 0x2f, 0xfd]

/-- The magic number of a frame that is skipped; the low half of its first byte is free. -/
def skipMagic : List UInt8 := [0x50, 0x2a, 0x4d, 0x18]

structure Header where
  skipped : Bool
  window : Nat
  /-- The size of the data, or of what is skipped, if it is told. -/
  content : Option Nat
  hasDictionary : Bool
  checked : Bool
deriving DecidableEq, Repr

/-- The least window, the most memory for a window, the greatest power of two that a window can
have, and the most that a block may hold. -/
def windowFloor : Nat := Nat.pow 2 10
def memoryLimit : Nat := Nat.pow 2 27 + 1
def windowExponentLimit : Nat := 31
def blockCeiling : Nat := Nat.pow 2 17

namespace Header

/-- The most that a block of the frame may hold. -/
def blockLimit (h : Header) : Nat := min h.window blockCeiling

/-- The window that room is made for. -/
def memoryWindow (h : Header) : Nat := max h.window windowFloor

/-- The memory for input that the frame asks for. -/
def inputMemory (h : Header) : Nat := max h.blockLimit 4

/-- The memory for data that the frame asks for: the window, two blocks behind it and a margin, or
all of its data if that is less. -/
def dataMemory (h : Header) : Nat :=
  let block := min (min h.memoryWindow blockCeiling) h.blockLimit
  let rolling := h.memoryWindow + 2 * block + 64
  match h.content with
  | some size => min size rolling
  | none => rolling

/-- How many bytes a dictionary number and the size of the data take. -/
def dictionaryBytes (descriptor : Nat) : Nat := [0, 1, 2, 4].getD (descriptor % 4) 0

def isSingle (descriptor : Nat) : Bool := descriptor.testBit 5

def contentBytes (descriptor : Nat) : Nat :=
  [if isSingle descriptor then 1 else 0, 2, 4, 8].getD (descriptor / 64) 0

/-- How many bytes a header has up to its descriptor and behind that. -/
def size (descriptor : Nat) : Nat :=
  5 + (if isSingle descriptor then 0 else 1) + dictionaryBytes descriptor + contentBytes descriptor

/-- The size of the window from its descriptor, a power of two and a number of its eighths. -/
def windowSize (descriptor : Nat) : Nat :=
  let whole := Nat.pow 2 (descriptor / 8 + 10)
  whole + whole / 8 * (descriptor % 8)

/-- The header in a list of all its bytes. -/
def ofBytes (bytes : List UInt8) : Except Fault Header :=
  let descriptor := ((bytes.drop 4).headD 0).toNat
  let rest := bytes.drop 5
  let windowByte := (rest.headD 0).toNat
  let rest := if isSingle descriptor then rest else rest.drop 1
  let dictionary := Checksum.littleEndian (rest.take (dictionaryBytes descriptor))
  let rest := rest.drop (dictionaryBytes descriptor)
  let width := contentBytes descriptor
  let number := Checksum.littleEndian (rest.take width)
  let number := if width = 2 then number + 256 else number
  -- the greatest number of eight bytes stands for a size that is not told
  let content := if width = 0 ∨ number = Nat.pow 2 64 - 1 then none else some number
  if descriptor.testBit 3 then .error .unsupported
  else if !isSingle descriptor && windowExponentLimit < windowByte / 8 + 10 then
    .error .tooMuchMemory
  else
    let window := if isSingle descriptor then number else windowSize windowByte
    .ok ⟨false, window, content, dictionary != 0, descriptor.testBit 2⟩

def ofSkipped (bytes : List UInt8) : Header :=
  ⟨true, 0, some (Checksum.littleEndian ((bytes.drop 4).take 4)), false, false⟩

end Header

/-- Whether bytes start like a frame that is skipped, as far as there are any. -/
def startsSkipped : List UInt8 → Bool
  | [] => true
  | b :: rest => b &&& 0xf0 == 0x50 && (rest.take 3).isPrefixOf (skipMagic.drop 1)

/-- Whether bytes start like a frame that is read, as far as there are any. -/
def startsFrame (bytes : List UInt8) : Bool := (bytes.take 4).isPrefixOf frameMagic

/-- What the bytes at the start of a frame come to: a header, or the count of bytes needed to say
more. -/
inductive Heading where
  | needs (count : Nat)
  | whole (size : Nat) (h : Header)

/-- Reads the header at the start of bytes. -/
def heading (bytes : List UInt8) : Except Fault Heading :=
  if !startsFrame bytes && !startsSkipped bytes then .error .unknownFrame
  else if bytes.length < 5 then .ok (.needs 5)
  else if startsFrame bytes then
    let size := Header.size ((bytes.drop 4).headD 0).toNat
    if bytes.length < size then .ok (.needs size) else (Header.ofBytes bytes).map (.whole size)
  else if bytes.length < 8 then .ok (.needs 8)
  else .ok (.whole 8 (.ofSkipped bytes))

end Zstandard
end RecordFlow
