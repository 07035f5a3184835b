import RecordFlow.Compression.Zstandard.Block

/-!
# Zstandard frame — a frame that is decoded block by block

What follows in a frame decides on how many bytes have to be there before one can go on.  Its data
goes through a memory which frames share and which grows with what their headers ask for: a block
must fit behind the data of the blocks before it.
-/

namespace RecordFlow
namespace Zstandard

/-- What follows in a frame. -/
inductive Next where
  | blockHeader
  /-- Raw bytes, `left` of which are still to come. -/
  | raw (last : Bool) (left : Nat)
  | repeated (last : Bool) (count : Nat)
  | compressed (last : Bool) (size : Nat)
  | checksum
  | skip (left : Nat)
  | nothing
deriving DecidableEq, Repr

/-- How many bytes have to be there before one can go on. -/
def Next.needs : Next → Nat
  | .blockHeader => BlockHeader.bytes
  | .raw .. | .repeated .. => 1
  | .compressed _ size => size
  | .checksum => 4
  | .skip _ | .nothing => 0

/-- A frame that is under way. -/
structure Frame where
  header : Header
  next : Next
  /-- Input that did not suffice to go on. -/
  loaded : List UInt8
  /-- The data so far, which compressed blocks look back on. -/
  data : Array UInt8
  context : Context
deriving DecidableEq, Repr

namespace Frame

def ofHeader (h : Header) : Frame :=
  ⟨h, if h.skipped then .skip (h.content.getD 0) else .blockHeader, [], #[], .initial⟩

/-- What follows the last block. -/
def closing (f : Frame) : Next := if f.header.checked then .checksum else .nothing

/-- The header of a block has been read. -/
def enterBlock (f : Frame) (bytes : List UInt8) : Except Fault Frame :=
  match BlockHeader.ofBytes? bytes with
  | none => .error .corrupt
  | some b =>
    if f.header.blockLimit < b.inputSize then .error .corrupt
    else if b.inputSize = 0 then
      .ok { f with next := if b.last then f.closing else .blockHeader }
    else
      match b.kind with
      | .raw => .ok { f with next := .raw b.last b.size }
      | .repeated => .ok { f with next := .repeated b.last b.size }
      | .compressed => .ok { f with next := .compressed b.last b.size }

/-- Data of a block has been decoded, with `room` for it; `left` bytes of the block are still to
come. -/
def decode (f : Frame) (room : Nat) (last : Bool) (left : Nat) (bytes : List UInt8) :
    Except Fault Frame := do
  if room < bytes.length then throw .noRoom
  if f.header.blockLimit < bytes.length then throw .corrupt
  let data := f.data ++ bytes
  let next ←
    if left ≠ 0 then pure (Next.raw last left)
    else if last then
      if f.header.content.any (· ≠ data.size) then throw .corrupt
      pure f.closing
    else pure .blockHeader
  pure { f with next, data }

end Frame

/-- The memory that frames share: for input and for data, and for how many frames in a row it has
been much too large. -/
structure Memory where
  input : Nat
  data : Nat
  oversized : Nat
deriving DecidableEq, Repr

namespace Memory

def empty : Memory := ⟨0, 0, 0⟩

/-- Memory three times as large as needed is much too large; it is given up when that holds for so
many frames. -/
def patience : Nat := 128

def forFrame (m : Memory) (h : Header) : Memory :=
  let needed := h.inputMemory + h.dataMemory
  let oversized := if 3 * needed ≤ m.input + m.data then m.oversized + 1 else 0
  if m.input < h.inputMemory ∨ m.data < h.dataMemory ∨ patience ≤ oversized then
    ⟨h.inputMemory, h.dataMemory, oversized⟩
  else { m with oversized }

end Memory

end Zstandard
end RecordFlow
