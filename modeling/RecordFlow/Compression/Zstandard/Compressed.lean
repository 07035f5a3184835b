import RecordFlow.Compression.Deflate.Inflated
import RecordFlow.Compression.Zstandard.Entropy

/-!
# Zstandard compressed data — literals and copies

A compressed block has two sections: literal bytes, and sequences, each of which takes some literals
and then copies a piece of the data before it.  What is left of the literals comes last.

Codes and distances of one block serve those behind it in the same frame: `Context` is what a block
finds of the blocks before.  Copies may reach back over all the data of the frame; that a frame
stays within its window is not looked at.
-/

namespace RecordFlow
namespace Zstandard

open Deflate (Bits Code number)

structure Tables where
  literals : Table
  distances : Table
  copies : Table
deriving DecidableEq, Repr

/-- What a block finds of the blocks before it in its frame. -/
structure Context where
  code : Option Code
  tables : Option Tables
  /-- The last three distances, the latest first. -/
  recent : Nat × Nat × Nat
deriving DecidableEq, Repr

def Context.initial : Context := ⟨none, none, 1, 4, 8⟩

/-! ## Literals -/

inductive LiteralsKind where
  | plain
  | repeated
  | coded
  /-- In the code of a block before. -/
  | codedAgain
deriving DecidableEq, Repr

/-- What is told in front of the literals: how many there are, in how many bytes, and in how many
streams they are written. -/
structure LiteralsHeader where
  kind : LiteralsKind
  headerSize : Nat
  size : Nat
  inputSize : Nat
  streams : Nat
deriving DecidableEq, Repr

/-- The least compressed block, and the least room for a coded one. -/
def blockFloor : Nat := 2
def codedFloor : Nat := 5

/-- The fewest literals in four streams. -/
def fourStreamsFloor : Nat := 6

def LiteralsHeader.ofBytes (bytes : List UInt8) : Except Fault LiteralsHeader := do
  if bytes.length < blockFloor then throw .corrupt
  let head := (bytes.headD 0).toNat
  let form := head / 4 % 4
  let kind := [LiteralsKind.plain, .repeated, .coded, .codedAgain].getD (head % 4) .plain
  match kind with
  | .plain | .repeated =>
    let headerSize := [1, 2, 1, 3].getD form 1
    if bytes.length < headerSize + (if kind = .repeated then 1 else 0) then throw .corrupt
    let n := Checksum.littleEndian (bytes.take headerSize)
    let size := if headerSize = 1 then n / 8 else n / 16
    pure ⟨kind, headerSize, size, if kind = .repeated then 1 else size, 1⟩
  | .coded | .codedAgain =>
    if bytes.length < codedFloor then throw .corrupt
    let (headerSize, width) := [(3, 10), (3, 10), (4, 14), (5, 18)].getD form (3, 10)
    let n := Checksum.littleEndian (bytes.take headerSize) / 16
    let size := n % Nat.pow 2 width
    pure ⟨kind, headerSize, size, n / Nat.pow 2 width, if form = 0 then 1 else 4⟩

/-- Literals in four streams, the sizes of the first three of which stand in front. -/
def fourStreams (code : Code) (size : Nat) (bytes : List UInt8) : Except Fault (Array UInt8) := do
  let sizeOf (i : Nat) : Nat := Checksum.littleEndian ((bytes.drop (2 * i)).take 2)
  let rest := bytes.drop 6
  let quarter := (size + 3) / 4
  if bytes.length < 10 ∨ rest.length < sizeOf 0 + sizeOf 1 + sizeOf 2 ∨ size < 3 * quarter then
    throw .corrupt
  let data ← codedBytes code quarter #[] (← backward (rest.take (sizeOf 0)))
  let rest := rest.drop (sizeOf 0)
  let data ← codedBytes code quarter data (← backward (rest.take (sizeOf 1)))
  let rest := rest.drop (sizeOf 1)
  let data ← codedBytes code quarter data (← backward (rest.take (sizeOf 2)))
  let rest := rest.drop (sizeOf 2)
  codedBytes code (size - 3 * quarter) data (← backward rest)

/-- Coded literals, which fill a piece of input. -/
def codedLiterals (code : Code) (streams size : Nat) (bytes : List UInt8) :
    Except Fault (Array UInt8) := do
  if streams = 4 then fourStreams code size bytes
  else codedBytes code size #[] (← backward bytes)

/-- The literals in front of a block, with room for so many, and what follows them. -/
def literals (c : Context) (limit room : Nat) (bytes : List UInt8) :
    Except Fault (Array UInt8 × Context × List UInt8) := do
  if bytes.length ≥ blockFloor ∧ (bytes.headD 0).toNat % 4 = 3 ∧ c.code.isNone then
    throw .dictionaryCorrupt
  let h ← LiteralsHeader.ofBytes bytes
  if limit < h.size then throw .corrupt
  if h.streams = 4 ∧ h.size < fourStreamsFloor then throw .literalsHeader
  let body := bytes.drop h.headerSize
  if body.length < h.inputSize then throw (if room < h.size then .noRoom else .corrupt)
  if room < h.size then throw .noRoom
  let rest := body.drop h.inputSize
  let body := body.take h.inputSize
  match h.kind with
  | .plain => pure (body.toArray, c, rest)
  | .repeated => pure (Array.replicate h.size (body.headD 0), c, rest)
  | .coded =>
    let (code, body) ← byteCode body
    pure (← codedLiterals code h.streams h.size body, { c with code := some code }, rest)
  | .codedAgain =>
    match c.code with
    | none => throw .dictionaryCorrupt
    | some code => pure (← codedLiterals code h.streams h.size body, c, rest)

/-! ## Tables of a block -/

/-- A kind of number in sequences: the least number and the extra bits of each symbol, and the usual
and the greatest table. -/
structure Numbers where
  bases : List (Nat × Nat)
  usual : Distribution
  exponentLimit : Nat

def literalNumbers : Numbers where
  bases := ((List.range 16).map (·, 0)) ++
    [(16, 1), (18, 1), (20, 1), (22, 1), (24, 2), (28, 2), (32, 3), (40, 3), (48, 4), (64, 6),
     (128, 7), (256, 8), (512, 9), (1024, 10), (2048, 11), (4096, 12), (8192, 13), (16384, 14),
     (32768, 15), (65536, 16)]
  usual := .ofCounts 6 ([4, 3] ++ List.replicate 11 2 ++ [1, 1, 1] ++ List.replicate 9 2 ++
    [3, 2, 1, 1, 1, 1, 1]) 4
  exponentLimit := 9

def copyNumbers : Numbers where
  bases := ((List.range 32).map (· + 3, 0)) ++
    [(35, 1), (37, 1), (39, 1), (41, 1), (43, 2), (47, 2), (51, 3), (59, 3), (67, 4), (83, 4),
     (99, 5), (131, 7), (259, 8), (515, 9), (1027, 10), (2051, 11), (4099, 12), (8195, 13),
     (16387, 14), (32771, 15), (65539, 16)]
  usual := .ofCounts 6 ([1, 4, 3] ++ List.replicate 6 2 ++ List.replicate 37 1) 7
  exponentLimit := 9

/-- A symbol for distances says how many bits they have behind their first. -/
def distanceNumbers : Numbers where
  bases := (List.range 32).map fun n => (Nat.pow 2 n, n)
  usual := .ofCounts 5 (List.replicate 6 1 ++ List.replicate 3 2 ++ List.replicate 15 1) 5
  exponentLimit := 8

/-- The table of one kind of numbers, chosen by two bits, and what follows its description. -/
def tableOf (numbers : Numbers) (mode : Nat) (before : Option Table) (bytes : List UInt8) :
    Except Fault (Table × List UInt8) := do
  match mode with
  | 0 => pure (.ofDistribution numbers.usual, bytes)
  | 1 =>
    match bytes with
    | [] => throw .corrupt
    | b :: rest =>
      if b.toNat < numbers.bases.length then pure (.constant b.toNat, rest) else throw .corrupt
  | 2 =>
    let (d, rest) ← distribution numbers.bases.length numbers.exponentLimit bytes
    pure (.ofDistribution d, rest)
  | _ =>
    match before with
    | none => throw .corrupt
    | some t => pure (t, bytes)

def sequenceCount : List UInt8 → Except Fault (Nat × List UInt8)
  | [] => .error .wrongSize
  | b :: rest =>
    let head := b.toNat
    if head < 128 then .ok (head, rest)
    else if head < 255 then
      match rest with
      | [] => .error .wrongSize
      | low :: rest => .ok ((head - 128) * 256 + low.toNat, rest)
    else if rest.length < 2 then .error .wrongSize
    else .ok (Checksum.littleEndian (rest.take 2) + 0x7f00, rest.drop 2)

/-- The tables in front of the sequences, and what follows them. -/
def tables (before : Option Tables) : List UInt8 → Except Fault (Tables × List UInt8)
  | [] => .error .wrongSize
  | modes :: rest => do
    let modes := modes.toNat
    if modes % 4 ≠ 0 then throw .corrupt
    let (literals, rest) ← tableOf literalNumbers (modes / 64) (before.map (·.literals)) rest
    let (distances, rest) ←
      tableOf distanceNumbers (modes / 16 % 4) (before.map (·.distances)) rest
    let (copies, rest) ← tableOf copyNumbers (modes / 4 % 4) (before.map (·.copies)) rest
    pure (⟨literals, distances, copies⟩, rest)

/-! ## Sequences -/

structure States where
  literals : Nat
  distances : Nat
  copies : Nat

def Tables.first (t : Tables) (bits : Bits) : Except Fault (States × Bits) := do
  let (literals, bits) ← t.literals.first bits
  let (distances, bits) ← t.distances.first bits
  let (copies, bits) ← t.copies.first bits
  pure (⟨literals, distances, copies⟩, bits)

def Tables.next (t : Tables) (s : States) (bits : Bits) : Except Fault (States × Bits) := do
  let (literals, bits) ← t.literals.next s.literals bits
  let (copies, bits) ← t.copies.next s.copies bits
  let (distances, bits) ← t.distances.next s.distances bits
  pure (⟨literals, distances, copies⟩, bits)

def Numbers.read (numbers : Numbers) (symbol : Nat) (bits : Bits) : Except Fault (Nat × Bits) := do
  let (base, width) := numbers.bases.getD symbol (0, 0)
  let (more, bits) ← falling width 0 bits
  pure (base + more, bits)

/-- The distance that a number stands for, and the recent distances then.  The first three numbers
stand for recent distances; behind no literals the latest is passed over, as it would have gone on
by itself. -/
def distance (recent : Nat × Nat × Nat) (number literals : Nat) : Nat × Nat × Nat × Nat :=
  let (a, b, c) := recent
  if 3 < number then (number - 3, number - 3, a, b)
  else
    match number + if literals = 0 then 1 else 0 with
    | 1 => (a, a, b, c)
    | 2 => (b, b, a, c)
    | 3 => (c, c, a, b)
    | _ => (a - 1, a - 1, a, b)

structure Sequence where
  literals : Nat
  distance : Nat
  copied : Nat
deriving DecidableEq, Repr

/-- Reads the sequence of some states. -/
def Tables.sequence (t : Tables) (s : States) (recent : Nat × Nat × Nat) (bits : Bits) :
    Except Fault (Sequence × (Nat × Nat × Nat) × Bits) := do
  let (number, bits) ← distanceNumbers.read (t.distances.cell s.distances).symbol bits
  let (copied, bits) ← copyNumbers.read (t.copies.cell s.copies).symbol bits
  let (literals, bits) ← literalNumbers.read (t.literals.cell s.literals).symbol bits
  let (distance, recent) := distance recent number literals
  pure (⟨literals, distance, copied⟩, recent, bits)

/-- Data of a frame while a block is decoded: all of it so far, and the literals that are left. -/
structure Work where
  data : Array UInt8
  literals : List UInt8

/-- Carries a sequence out; the data may grow up to `most`. -/
def Work.perform (w : Work) (most : Nat) (s : Sequence) : Except Fault Work := do
  if most < w.data.size + s.literals + s.copied then throw .noRoom
  if w.literals.length < s.literals then throw .corrupt
  let data := w.data ++ w.literals.take s.literals
  if s.distance = 0 ∨ data.size < s.distance then throw .corrupt
  pure ⟨Deflate.copy s.distance s.copied data, w.literals.drop s.literals⟩

/-- Carries out `n + 1` sequences, the first of which has the given states.  They take all bits. -/
def Tables.perform (t : Tables) (most : Nat) :
    Nat → States → (Nat × Nat × Nat) → Work → Bits → Except Fault (Work × (Nat × Nat × Nat))
  | 0, s, recent, w, bits => do
    let (sequence, recent, bits) ← t.sequence s recent bits
    let w ← w.perform most sequence
    if bits.rest.isEmpty then pure (w, recent) else throw .corrupt
  | n + 1, s, recent, w, bits => do
    let (sequence, recent, bits) ← t.sequence s recent bits
    let w ← w.perform most sequence
    let (s, bits) ← t.next s bits
    perform t most n s recent w bits

/-- Decodes the data of a compressed block behind the data of its frame, with room for so much, of
which `limit` bytes at most may be used. -/
def compressed (c : Context) (limit room : Nat) (data : Array UInt8) (bytes : List UInt8) :
    Except Fault (Context × Array UInt8) := do
  if limit < bytes.length then throw .wrongSize
  let most := data.size + room
  let (literals, c, rest) ← literals c limit (min limit room) bytes
  let (count, rest) ← sequenceCount rest
  let (c, w) ← match count with
    | 0 => if rest.isEmpty then pure (c, Work.mk data literals.toList) else throw .corrupt
    | n + 1 =>
      let (tables, rest) ← tables c.tables rest
      if room = 0 then throw .noRoom
      let bits ← backward rest
      let (states, bits) ← tables.first bits
      let (w, recent) ← tables.perform most n states c.recent ⟨data, literals.toList⟩ bits
      pure ({ c with tables := some tables, recent }, w)
  if most < w.data.size + w.literals.length then throw .noRoom
  pure (c, w.data ++ w.literals)

end Zstandard
end RecordFlow
