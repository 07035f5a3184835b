import RecordFlow.Compression.Stream
import RecordFlow.Compression.Zstandard.Frame

/-!
# Zstandard decoder — a file of frames

A file is a sequence of frames, some of which may be skipped.  The decoder takes its input in
pieces.  A frame of known size that stands in a piece as a whole, and for which the reader has room,
is decoded at once; any other goes block by block.  A fault costs the data that was decoded for the
same request.

This is the streaming decoder of the library zstd, which is assumed to follow its format.  Two
things of it are left out: a dictionary is never loaded, as no source is opened with one, and a
damaged block that the library decodes nevertheless may be refused here.
-/

namespace RecordFlow
namespace Zstandard

inductive Stage where
  /-- In a frame header, some bytes of which have been read. -/
  | header (loaded : List UInt8)
  | frame (f : Frame)

structure Decoder where
  /-- Input at hand, and what follows it in the file. -/
  piece : List UInt8
  behind : List UInt8
  stage : Stage
  memory : Memory
  /-- Where in the memory the next data goes. -/
  offset : Nat
  /-- Decoded data that has not been handed on. -/
  waiting : List UInt8
  /-- Whether the last byte of a frame is held back until all its data has been handed on. -/
  holdsBack : Bool
  /-- Whether the last frame is complete. -/
  finished : Bool

/-- One turn of the decoder: input and room that are left, and the data so far. -/
structure Turn where
  input : List UInt8
  room : Nat
  output : List (List UInt8)

namespace Decoder

/-- The bytes by which the format of a file is told, and the size of a piece of input. -/
def firstPiece : Nat := 4
def pieceSize : Nat := Nat.pow 2 17 + 3

def ofBytes (bytes : List UInt8) : Decoder :=
  ⟨bytes.take firstPiece, bytes.drop firstPiece, .header [], .empty, 0, [], false, false⟩

/-- A decoder with input at hand, as long as there is any. -/
def refill (d : Decoder) : Decoder :=
  if d.piece.isEmpty then
    { d with piece := d.behind.take pieceSize, behind := d.behind.drop pieceSize }
  else d

inductive Step where
  | goOn (d : Decoder) (t : Turn)
  | stop (d : Decoder) (t : Turn)

/-- Takes the header of a frame; `start` is the input that the turn began with. -/
def enterFrame (d : Decoder) (t : Turn) (start : List UInt8) (h : Header) : Except Fault Step := do
  let atOnce? := if !h.skipped && h.content.any (· ≤ t.room) then frameSize? start else none
  match atOnce? with
  | some size =>
    let data ← wholeFrame t.room start
    pure (.stop { d with stage := .header [], offset := 0, holdsBack := false, finished := true }
      ⟨start.drop size, t.room - data.size, data.toList :: t.output⟩)
  | none =>
    if h.hasDictionary then throw .dictionary
    if memoryLimit < h.memoryWindow then throw .tooMuchMemory
    pure (.goOn { d with
      stage := .frame (.ofHeader h), memory := d.memory.forFrame h, offset := 0,
      holdsBack := false } t)

def readHeader (d : Decoder) (t : Turn) (start loaded : List UInt8) : Except Fault Step := do
  match ← heading loaded with
  | .whole _ h => d.enterFrame t start h
  | .needs count =>
    let missing := count - loaded.length
    let loaded := loaded ++ t.input.take missing
    let t' : Turn := { t with input := t.input.drop missing }
    if t.input.length < missing then
      let _ ← heading loaded
      pure (.stop { d with stage := .header loaded } t')
    else pure (.goOn { d with stage := .header loaded } t')

/-- Hands on what waits, as far as there is room.  When a frame is complete but not its data handed
on, its last byte goes back to the input. -/
def handOn (d : Decoder) (t : Turn) (start : List UInt8) (f : Frame) : Step :=
  let n := min t.room d.waiting.length
  let t : Turn := ⟨t.input, t.room - n, d.waiting.take n :: t.output⟩
  let d := { d with waiting := d.waiting.drop n, offset := d.offset + n }
  if d.waiting.isEmpty then
    let wraps := f.header.content.all (decide <| d.memory.data < ·) &&
      decide (d.memory.data < d.offset + f.header.blockLimit)
    .goOn { d with offset := if wraps then 0 else d.offset } t
  else if f.next = .nothing ∧ !d.holdsBack then
    let last := start.length - t.input.length - 1
    .stop { d with holdsBack := true } { t with input := start.drop last }
  else .stop d t

def leaveFrame (d : Decoder) (t : Turn) : Step :=
  if d.holdsBack then
    match t.input with
    | [] => .stop d t
    | _ :: rest =>
      .stop { d with stage := .header [], offset := 0, holdsBack := false, finished := true }
        { t with input := rest }
  else .stop { d with stage := .header [], offset := 0, finished := true } t

/-- Goes on in a frame with the bytes that it needs. -/
def proceed (d : Decoder) (f : Frame) (bytes : List UInt8) : Except Fault Decoder := do
  let room := d.memory.data - d.offset
  match f.next with
  | .blockHeader => pure { d with stage := .frame (← f.enterBlock bytes) }
  | .raw last left =>
    let f ← f.decode room last (left - bytes.length) bytes
    pure { d with stage := .frame f, waiting := bytes }
  | .repeated last count =>
    if room < count then throw .noRoom
    let data := List.replicate count (bytes.headD 0)
    pure { d with stage := .frame (← f.decode room last 0 data), waiting := data }
  | .compressed last _ =>
    let (context, all) ← compressed f.context f.header.blockLimit room f.data bytes
    let data := (all.extract f.data.size all.size).toList
    let f ← { f with context }.decode room last 0 data
    pure { d with stage := .frame f, waiting := data }
  | .checksum =>
    if agrees f.data bytes then pure { d with stage := .frame { f with next := .nothing } }
    else throw .checksum
  | .skip left =>
    let left := left - bytes.length
    pure { d with stage := .frame { f with next := if left = 0 then .nothing else .skip left } }
  | .nothing => pure d

def step (d : Decoder) (t : Turn) (start : List UInt8) : Except Fault Step := do
  match d.stage with
  | .header loaded => d.readHeader t start loaded
  | .frame f =>
    if !d.waiting.isEmpty then pure (d.handOn t start f)
    else
      let take (n : Nat) : Except Fault Step := do
        let d ← d.proceed { f with loaded := [] } (f.loaded ++ t.input.take n)
        pure (.goOn d { t with input := t.input.drop n })
      match f.next with
      | .nothing => pure (d.leaveFrame t)
      | .skip 0 => pure (d.leaveFrame t)
      | .raw _ left => if t.input.isEmpty then pure (.stop d t) else take left
      | .skip left => if t.input.isEmpty then pure (.stop d t) else take left
      | next =>
        let missing := next.needs - f.loaded.length
        if t.input.length < missing then
          let f := { f with loaded := f.loaded ++ t.input }
          pure (.stop { d with stage := .frame f } { t with input := [] })
        else take missing

/-- Steps up to the end of a turn; each takes input or room, or leads to one that does. -/
def steps (start : List UInt8) : Nat → Decoder → Turn → Except Fault (Decoder × Turn)
  | 0, d, t => .ok (d, t)
  | fuel + 1, d, t => do
    match ← d.step t start with
    | .stop d t => pure (d, t)
    | .goOn d t => steps start fuel d t

/-- A turn on the input at hand, or on none. -/
def turn (d : Decoder) (input : List UInt8) (room : Nat) : Except Fault (Decoder × Turn) :=
  steps input (4 * (input.length + room + 4)) d ⟨input, room, []⟩

/-- Turns on input until there is data, at most `n` bytes. -/
def turns (n : Nat) : Nat → Decoder → Except Fault (List UInt8 × Decoder)
  | 0, d => .ok ([], d)
  | fuel + 1, d =>
    let d := d.refill
    if d.piece.isEmpty then
      if d.finished then .ok ([], d) else .error .incomplete
    else do
      let (d, t) ← { d with finished := false }.turn d.piece n
      let d := { d with piece := t.input }
      match t.output.reverse.flatten with
      | [] => turns n fuel d
      | bytes => pure (bytes, d)

/-- A request for at most `n` bytes: what waits is handed on before more input is looked at. -/
def read (n : Nat) (d : Decoder) : Except Fault (List UInt8 × Decoder) := do
  let (d, t) ← d.turn [] n
  match t.output.reverse.flatten with
  | [] => turns n (d.piece.length + d.behind.length + 2) d
  | bytes => pure (bytes, d)

end Decoder

def decode (demand : Compression.Demand) (bytes : List UInt8) : Compression.Decoded :=
  let read (n : Nat) (d : Decoder) : Except String (List UInt8 × Decoder) :=
    (d.read n).mapError Fault.message
  demand.collect read (Compression.dataLimit bytes) (.ofBytes bytes)

end Zstandard
end RecordFlow
