import RecordFlow.Compression.Zstandard.Compressed

/-!
# Zstandard block — the parts of a frame

The data of a frame stands in blocks of three kinds: raw bytes, one byte repeated, and compressed
data.

A frame that stands in a list of bytes as a whole has a size (`frameSize?`), and is decoded at once
if there is room for its data (`wholeFrame`).
-/

namespace RecordFlow
namespace Zstandard

inductive BlockKind where
  | raw
  | repeated
  | compressed
deriving DecidableEq, Repr

/-- The header of a block; `size` counts the bytes of its data. -/
structure BlockHeader where
  last : Bool
  kind : BlockKind
  size : Nat
deriving DecidableEq, Repr

def BlockHeader.bytes : Nat := 3

namespace BlockHeader

/-- The header in a list of three bytes; one kind of block is not known. -/
def ofBytes? (bytes : List UInt8) : Option BlockHeader :=
  let n := Checksum.littleEndian (bytes.take 3)
  let kind? := [BlockKind.raw, .repeated, .compressed][n / 2 % 4]?
  kind?.map fun kind => ⟨n % 2 = 1, kind, n / 8⟩

def inputSize (b : BlockHeader) : Nat := if b.kind = .repeated then 1 else b.size

end BlockHeader

/-- Whether the low half of the hash of data is the number in four bytes. -/
def agrees (data : Array UInt8) (bytes : List UInt8) : Bool :=
  Checksum.littleEndian (bytes.take 4) = (Checksum.xxHash64 data.toList).toNat % Nat.pow 2 32

/-! ## A whole frame at once -/

/-- The size of the blocks that bytes begin with, up to the last block, if they are all there. -/
def blocksSize? : Nat → List UInt8 → Option Nat
  | 0, _ => none
  | fuel + 1, bytes =>
    if bytes.length < BlockHeader.bytes then none
    else
      match BlockHeader.ofBytes? bytes with
      | none => none
      | some b =>
        let size := BlockHeader.bytes + b.inputSize
        if bytes.length < size then none
        else if b.last then some size
        else (blocksSize? fuel (bytes.drop size)).map (size + ·)

def frameSize? (bytes : List UInt8) : Option Nat :=
  match heading bytes with
  | .ok (.whole size h) =>
    let blocks? :=
      if h.skipped then h.content else blocksSize? (bytes.length + 1) (bytes.drop size)
    match blocks? with
    | none => none
    | some blocks =>
      let total := size + blocks + if h.checked then 4 else 0
      if total ≤ bytes.length then some total else none
  | _ => none

/-- The data of the blocks that bytes begin with, which all have to be there, behind `data`; and the
bytes behind the last block. -/
def wholeBlocks (limit room : Nat) :
    Nat → Context → Array UInt8 → List UInt8 → Except Fault (Array UInt8 × List UInt8)
  | 0, _, data, bytes => .ok (data, bytes)
  | fuel + 1, c, data, bytes =>
    match BlockHeader.ofBytes? bytes with
    | none => .error .corrupt
    | some b => do
      let rest := bytes.drop BlockHeader.bytes
      let left := room - data.size
      let (c, data) ← match b.kind with
        | .raw => if left < b.size then throw .noRoom else pure (c, data ++ rest.take b.size)
        | .repeated =>
          if left < b.size then throw .noRoom
          else pure (c, data ++ Array.replicate b.size (rest.headD 0))
        | .compressed => compressed c limit left data (rest.take b.size)
      let rest := rest.drop b.inputSize
      if b.last then pure (data, rest) else wholeBlocks limit room fuel c data rest

/-- The data of the frame that bytes begin with, which has to be there as a whole. -/
def wholeFrame (room : Nat) (bytes : List UInt8) : Except Fault (Array UInt8) := do
  match ← heading bytes with
  | .needs _ => throw .incomplete
  | .whole size h =>
    if h.skipped then pure #[]
    else
      if h.hasDictionary then throw .dictionary
      let (data, rest) ←
        wholeBlocks h.blockLimit room (bytes.length + 1) .initial #[] (bytes.drop size)
      if h.content.any (· ≠ data.size) then throw .corrupt
      if h.checked && !agrees data rest then throw .checksum
      pure data

end Zstandard
end RecordFlow
