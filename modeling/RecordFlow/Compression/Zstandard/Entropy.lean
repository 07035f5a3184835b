import RecordFlow.Compression.Deflate.Code
import RecordFlow.Compression.Zstandard.Header

/-!
# Zstandard entropy — numbers and symbols in few bits

Compressed blocks hold two kinds of codes.  A state code walks through the cells of a table: each
cell stands for a symbol, and a few bits lead on to the next.  The table follows from how many cells
each symbol has, which is listed in front.  A prefix code gives every byte a word; it follows from
the weights of the bytes, which are themselves written in a state code.

The counts are read forward.  What is written in a code is read from its end: the highest bit set of
the last byte is where it begins.
-/

namespace RecordFlow
namespace Zstandard

open Deflate (Bits Code number)

/-! ## Bits from the end -/

/-- The bits of a stream in the order in which they are read. -/
def backward (bytes : List UInt8) : Except Fault Bits :=
  if bytes.getLastD 0 = 0 then .error .corrupt
  else .ok ⟨((bytes.flatMap Deflate.byteBits).reverse.dropWhile (!·)).drop 1, 0⟩

/-- Reads a number of `n` bits, the most significant first; `high` has been read in front of
them. -/
def falling : Nat → Nat → Bits → Except Fault (Nat × Bits)
  | 0, high, bits => .ok (high, bits)
  | _ + 1, _, ⟨[], _⟩ => .error .corrupt
  | n + 1, high, ⟨b :: rest, used⟩ =>
    falling n (2 * high + if b then 1 else 0) ⟨rest, used + 1⟩

def orCorrupt {α : Type} (read : Except Deflate.Fault α) : Except Fault α :=
  read.mapError fun _ => .corrupt

/-! ## Counts -/

/-- How many of the `2 ^ exponent` cells of a table each symbol has; one that is rare has a single
cell at the end of the table. -/
structure Distribution where
  exponent : Nat
  counts : List (Option Nat)
deriving DecidableEq, Repr

def Distribution.ofCounts (exponent : Nat) (frequent : List Nat) (rare : Nat) : Distribution :=
  ⟨exponent, frequent.map some ++ List.replicate rare none⟩

/-- The cells of a symbol, `none` standing for a rare one. -/
def cellCount : Option Nat → Nat
  | none => 1
  | some n => n

/-- Reads a number up to `most` in as few bits as that takes. -/
def upTo (most : Nat) (bits : Bits) : Except Fault (Nat × Bits) := do
  let width := Nat.log2 (most + 1)
  let half := Nat.pow 2 width
  -- the numbers that are left over by the shorter words
  let spare := 2 * half - (most + 1)
  let (low, bits) ← orCorrupt (number width bits)
  if low < spare then pure (low, bits)
  else
    let (top, bits) ← orCorrupt (number 1 bits)
    pure (if top = 1 then low + half - spare else low, bits)

/-- Reads how many symbols without cells follow one; a three is followed by more. -/
def zeros : Nat → Bits → Except Fault (Nat × Bits)
  | 0, _ => .error .corrupt
  | fuel + 1, bits => do
    let (n, bits) ← orCorrupt (number 2 bits)
    if n = 3 then
      let (more, bits) ← zeros fuel bits
      pure (n + more, bits)
    else pure (n, bits)

/-- Reads counts until all cells are given away, `left` being those that are not, and `acc` the
counts so far, the last one first.  Every count takes a bit at least. -/
def counts (symbols : Nat) :
    Nat → Nat → List (Option Nat) → Bits → Except Fault (List (Option Nat) × Bits)
  | 0, _, _, _ => .error .corrupt
  | fuel + 1, left, acc, bits => do
    if left = 0 then pure (acc.reverse, bits)
    else if symbols ≤ acc.length then throw .corrupt
    else
      let (value, bits) ← upTo (left + 1) bits
      match value with
      | 0 => counts symbols fuel (left - 1) (none :: acc) bits
      | 1 =>
        let (n, bits) ← zeros fuel bits
        counts symbols fuel left (List.replicate (n + 1) (some 0) ++ acc) bits
      | n + 2 => counts symbols fuel (left - (n + 1)) (some (n + 1) :: acc) bits

def exponentFloor : Nat := 5

/-- Reads a distribution of so many symbols at most; it ends at a whole byte. -/
def distribution (symbols exponentLimit : Nat) (bytes : List UInt8) :
    Except Fault (Distribution × List UInt8) := do
  let bits := Bits.ofBytes bytes
  let (low, rest) ← orCorrupt (number 4 bits)
  let exponent := low + exponentFloor
  if exponentLimit < exponent then throw .corrupt
  let (all, rest) ← counts symbols (bits.rest.length + 1) (Nat.pow 2 exponent) [] rest
  pure (⟨exponent, all⟩, bytes.drop ((rest.used + 7) / 8))

/-! ## Tables -/

/-- A cell: its symbol, and the cells that the next bits lead to, from `base` on. -/
structure Cell where
  symbol : Nat
  width : Nat
  base : Nat
deriving DecidableEq, Repr, Inhabited

structure Table where
  exponent : Nat
  cells : Array Cell
deriving DecidableEq, Repr

namespace Table

/-- The symbols of the cells of a table in turn: rare ones stand at its end, the first one last, and
the others are spread over what is left in steps of the same length. -/
def spread (d : Distribution) : Array Nat :=
  let size := Nat.pow 2 d.exponent
  let symbols := d.counts.zipIdx
  let rare := symbols.filterMap fun s => if s.1.isNone then some s.2 else none
  let others := symbols.flatMap fun s => List.replicate (s.1.getD 0) s.2
  let stride := size / 2 + size / 8 + 3
  let places := (List.range size).map (· * stride % size)
  let free := places.filter (· < size - rare.length)
  let put (table : Array Nat) (s : Nat × Nat) : Array Nat := table.setIfInBounds s.1 s.2
  let table := (free.zip others).foldl put (Array.replicate size 0)
  (rare.zipIdx.map fun s => (size - 1 - s.2, s.1)).foldl put table

/-- The cells of a symbol are numbered upward, from the count of them on; the number of a cell says
how many bits follow it. -/
def ofDistribution (d : Distribution) : Table :=
  let size := Nat.pow 2 d.exponent
  let add (seen : Array Nat × Array Cell) (symbol : Nat) : Array Nat × Array Cell :=
    let n := seen.1.getD symbol 1
    let width := d.exponent - Nat.log2 n
    (seen.1.setIfInBounds symbol (n + 1), seen.2.push ⟨symbol, width, n * Nat.pow 2 width - size⟩)
  ⟨d.exponent, ((spread d).foldl add ((d.counts.map cellCount).toArray, #[])).2⟩

def constant (symbol : Nat) : Table := ⟨0, #[⟨symbol, 0, 0⟩]⟩

def cell (t : Table) (state : Nat) : Cell := t.cells.getD state default

def first (t : Table) (bits : Bits) : Except Fault (Nat × Bits) := falling t.exponent 0 bits

def next (t : Table) (state : Nat) (bits : Bits) : Except Fault (Nat × Bits) := do
  let c := t.cell state
  let (more, bits) ← falling c.width 0 bits
  pure (c.base + more, bits)

end Table

/-! ## Weights of bytes -/

/-- The most weights that are told, the greatest weight, and the greatest exponent of a table for
weights. -/
def weightsLimit : Nat := 255
def weightLimit : Nat := 12
def weightExponentLimit : Nat := 6

/-- Symbols from two states in turn; when there are not enough bits to go on from one, the symbol of
the other is the last. -/
def alternate (t : Table) : Nat → Nat → Nat → List Nat → Bits → Except Fault (List Nat)
  | 0, _, _, _, _ => .error .corrupt
  | fuel + 1, state, other, acc, bits =>
    let acc := (t.cell state).symbol :: acc
    match t.next state bits with
    | .error _ => .ok ((t.cell other).symbol :: acc).reverse
    | .ok (state, bits) => alternate t fuel other state acc bits

def codedWeights (bytes : List UInt8) : Except Fault (List Nat) := do
  let (d, rest) ← distribution (weightsLimit + 1) weightExponentLimit bytes
  let t := Table.ofDistribution d
  let bits ← backward rest
  let (state, bits) ← t.first bits
  let (other, bits) ← t.first bits
  -- two symbols at least have to fit behind those that have been read
  alternate t (weightsLimit - 1) state other [] bits

def plainWeights (count : Nat) (bytes : List UInt8) : List Nat :=
  (bytes.flatMap fun b => [b.toNat / 16, b.toNat % 16]).take count

/-- The weights in front of a coded text, and what follows them. -/
def weights : List UInt8 → Except Fault (List Nat × List UInt8)
  | [] => .error .corrupt
  | head :: rest => do
    let head := head.toNat
    let size := if head < 128 then head else (head - 126) / 2
    if rest.length < size then throw .corrupt
    let all ←
      if head < 128 then codedWeights (rest.take size)
      else pure (plainWeights (head - 127) (rest.take size))
    pure (all, rest.drop size)

def space (weight : Nat) : Nat := Nat.pow 2 weight / 2

/-- The weights of all bytes with that of the last one, which is not told: it takes the space up to
the next power of two. -/
def completed (told : List Nat) : Except Fault (Nat × List Nat) := do
  if told.any (weightLimit < ·) then throw .corrupt
  let total := (told.map space).foldr (· + ·) 0
  if total = 0 then throw .corrupt
  let exponent := Nat.log2 total + 1
  if weightLimit < exponent then throw .corrupt
  let rest := Nat.pow 2 exponent - total
  let last := Nat.log2 rest + 1
  if space last ≠ rest then throw .corrupt
  let all := told ++ [last]
  if all.count 1 < 2 ∨ all.count 1 % 2 = 1 then throw .corrupt
  pure (exponent, all)

/-- The code of some weights: the words of bytes with a small weight are long and come first. -/
def codeOfWeights (exponent : Nat) (all : List Nat) : Code :=
  let ordered := (List.range exponent).flatMap fun n => all.zipIdx.filter (·.1 = n + 1)
  let add (seen : Nat × Code) (s : Nat × Nat) : Nat × Code :=
    let word := (Code.bitsDown exponent seen.1).take (exponent + 1 - s.1)
    (seen.1 + space s.1, seen.2.insert s.2 word)
  (ordered.foldl add (0, .empty)).2

def byteCode (bytes : List UInt8) : Except Fault (Code × List UInt8) := do
  let (told, rest) ← weights bytes
  let (exponent, all) ← completed told
  pure (codeOfWeights exponent all, rest)

/-- Reads `n` bytes, which take all of the bits. -/
def codedBytes (code : Code) : Nat → Array UInt8 → Bits → Except Fault (Array UInt8)
  | 0, data, bits => if bits.rest.isEmpty then .ok data else .error .corrupt
  | n + 1, data, bits => do
    let (symbol, bits) ← orCorrupt (code.read bits)
    codedBytes code n (data.push (.ofNat symbol)) bits

end Zstandard
end RecordFlow
