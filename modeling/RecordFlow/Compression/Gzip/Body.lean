import RecordFlow.Compression.Deflate.Inflated
import RecordFlow.Compression.Gzip.Header

/-!
# Gzip body — the data of a member while it is handed on

The input comes in pieces, and is inflated into a window of `windowSize` bytes, from where data is
handed on.  Inflating goes on while there is room in the window, so that a fault shows before all
data in front of it has been handed on; what was inflated for the same request is lost.

How far the window is filled before data is handed on is the behaviour of flate2 with the inflater
that it uses by default, and assumed.
-/

namespace RecordFlow
namespace Gzip

/-- The window of the decoder, the size of a piece of input and of the first one. -/
def windowSize : Nat := 32768
def pieceSize : Nat := 32768
def firstPiece : Nat := 4

/-- The end of the piece of input that holds the byte at `position` of a file of `total` bytes. -/
def pieceEnd (total position : Nat) : Nat :=
  min total
    (if position < firstPiece then firstPiece
    else firstPiece + ((position - firstPiece) / pieceSize + 1) * pieceSize)

/-- How the last turn of inflating ended. -/
inductive Turn where
  /-- All of the input has been read. -/
  | hungry
  /-- The window is full. -/
  | full
  | complete
  | corrupt
  /-- There is no more input. -/
  | starved
deriving DecidableEq, Repr

structure Body where
  /-- The size of the file. -/
  total : Nat
  /-- Where in the file the deflated data begins. -/
  start : Nat
  inflated : Deflate.Inflated
  /-- Where in the file the input begins that has not been read. -/
  position : Nat
  /-- How much data has been handed on, and how much more stands in the window. -/
  written : Nat
  waiting : Nat
  /-- The first mark behind the data that has been inflated. -/
  mark : Nat
  turn : Turn

namespace Body

def ofBytes (total : Nat) (bytes : List UInt8) : Body :=
  let start := total - bytes.length
  ⟨total, start, Deflate.inflate bytes, start, 0, 0, 0, .hungry⟩

/-- Where in the file the byte stands that holds the last of `used` bits. -/
def positionOf (b : Body) (used : Nat) : Nat := max b.position (b.start + (used + 7) / 8)

/-- Inflates up to `limit` bytes with `available` bits of input; `size` bytes have been inflated. -/
def advance (b : Body) (available limit piece : Nat) : Nat → Nat → Body × Nat
  | 0, size => (b, size)
  | fuel + 1, size =>
    let hungry (size : Nat) : Body × Nat :=
      ({ b with position := piece, turn := if size = limit then .full else .hungry }, size)
    match b.inflated.marks[b.mark]? with
    | some m =>
      if available < m.ready then hungry size
      else if limit < m.size then
        ({ b with position := b.positionOf m.held, turn := .full }, limit)
      else advance { b with mark := b.mark + 1 } available limit piece fuel m.size
    | none =>
      match b.inflated.ending with
      | .complete used =>
        if available < used then hungry size
        else ({ b with position := b.positionOf used, turn := .complete }, size)
      | .corrupt used =>
        if available < used then hungry size else ({ b with turn := .corrupt }, size)
      | .truncated => hungry size

def inflate (b : Body) : Body :=
  if b.turn = .complete then b
  else
    let piece := pieceEnd b.total b.position
    let room := windowSize - b.written % windowSize
    let (b', size) := b.advance (8 * (piece - b.start)) (b.written + room) piece
      (b.inflated.marks.size + 1) b.written
    let turn := if b'.turn = .hungry ∧ b.position = b.total then .starved else b'.turn
    { b' with waiting := size - b.written, turn }

def handOn (b : Body) (n : Nat) : Body :=
  let k := min n b.waiting
  { b with written := b.written + k, waiting := b.waiting - k }

/-- Takes turns until there is no more room for data, or no more input at hand; `goal` is how much
data may have been handed on then. -/
def turns (goal : Nat) : Nat → Body → Except Fault Body
  | 0, b => .ok b
  | fuel + 1, b =>
    let piece := pieceEnd b.total b.position
    let atEnd := b.position = b.total
    let b := b.inflate
    let b := b.handOn (goal - b.written)
    match b.turn with
    | .corrupt => .error .corruptData
    | .starved | .complete => .ok b
    | .hungry | .full =>
      if b.written = goal ∨ b.waiting ≠ 0 ∨ (¬ atEnd ∧ b.position = piece) then .ok b
      else turns goal fuel b

/-- Takes pieces of input until data can be handed on, at most `n` bytes. -/
def request (n : Nat) : Nat → Body → Except Fault Body
  | 0, b => .ok b
  | fuel + 1, b => do
    let before := b.written
    let atEnd := b.position = b.total
    let b ←
      if b.turn = .starved then pure b
      else if b.waiting ≠ 0 then pure (b.handOn n)
      else turns (before + n) (n + b.inflated.marks.size + 2) b
    if b.written ≠ before ∨ (b.turn = .complete ∧ b.waiting = 0) then pure b
    else if atEnd then throw .incompleteData
    else request n fuel b

end Body

end Gzip
end RecordFlow
