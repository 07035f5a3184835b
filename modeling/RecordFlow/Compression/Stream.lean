/-!
# Stream — asking a decoder for data

A decoder hands data on as it is asked for it: a request for `n` bytes comes to some bytes, at most
`n`, to none at the end of the data, or to a fault.  A fault costs what was decoded for the same
request, so that the sizes of the requests decide on how much data comes before it.

There are two ways to ask.  `readPortions` asks for one portion after the other.  `readWhole` fills
a store which doubles in size: it asks for what the store has room for, through a portion that is
kept for small requests.

The first way is that of the csv reader with its buffer of 8 KiB, the second that of the standard
library when a source is read to its end.  The sizes of their requests are assumed: they decide on
what is lost in front of a fault, and on nothing else.
-/

namespace RecordFlow
namespace Compression

inductive Demand where
  | portions
  | whole
deriving DecidableEq, Repr

/-- The data that came at each request, and the text of the fault behind the last. -/
structure Decoded where
  parts : List (List UInt8)
  fault : Option String
deriving DecidableEq, Repr, Inhabited

namespace Decoded

def data (d : Decoded) : List UInt8 := d.parts.flatten

def lead (d : Decoded) : Nat := (d.parts.head?.map List.length).getD 0

def after (bytes : List UInt8) (d : Decoded) : Decoded := { d with parts := bytes :: d.parts }

end Decoded

def portion : Nat := 8192

/-- No file decodes to more data than this: the densest thing in one is a block of four bytes that
stands for `2 ^ 17`. -/
def dataLimit (bytes : List UInt8) : Nat := Nat.pow 2 17 * (bytes.length + 1)

variable {σ : Type} (read : Nat → σ → Except String (List UInt8 × σ))

/-- Asks for portions up to the end; every one but the last holds a byte at least, so that the count
of bytes is fuel. -/
def readPortions : Nat → σ → Decoded
  | 0, _ => ⟨[], none⟩
  | fuel + 1, s =>
    match read portion s with
    | .error fault => ⟨[], some fault⟩
    | .ok ([], _) => ⟨[], none⟩
    | .ok (bytes, s) => .after bytes (readPortions fuel s)

/-! ## A growing store -/

/-- A store: the bytes in it, the bytes that it has room for, and the most to ask for at once. -/
structure Store where
  size : Nat
  capacity : Nat
  most : Nat
deriving DecidableEq, Repr

namespace Store

/-- The first request, by which a store finds out whether there is data at all. -/
def probe : Nat := 32

def ofProbe (size : Nat) : Store := ⟨size, max 8 size, portion⟩

/-- A full store doubles, and takes as much as a first request at least. -/
def grown (s : Store) : Store :=
  if s.size = s.capacity then { s with capacity := max (2 * s.capacity) (s.size + probe) } else s

def request (s : Store) : Nat := min (s.capacity - s.size) s.most

/-- A store that got `n` bytes; when that was the most it can ask for, it asks for more next
time. -/
def took (s : Store) (n : Nat) : Store :=
  { s with
    size := s.size + n
    most := if s.most ≤ s.request ∧ n = s.request then 2 * s.most else s.most }

end Store

/-- Small requests are served from a portion that is kept, others go to the decoder. -/
def readKept (n : Nat) (kept : List UInt8) (s : σ) :
    Except String (List UInt8 × List UInt8 × σ) := do
  if kept.isEmpty && portion ≤ n then
    let (bytes, s) ← read n s
    pure (bytes, [], s)
  else
    let (kept, s) ← if kept.isEmpty then read portion s else pure (kept, s)
    pure (kept.take n, kept.drop n, s)

/-- Fills a store up to the end of the data. -/
def fill : Nat → Store → List UInt8 → σ → Decoded
  | 0, _, _, _ => ⟨[], none⟩
  | fuel + 1, store, kept, s =>
    let store := store.grown
    match readKept read store.request kept s with
    | .error fault => ⟨[], some fault⟩
    | .ok ([], _, _) => ⟨[], none⟩
    | .ok (bytes, kept, s) => .after bytes (fill fuel (store.took bytes.length) kept s)

/-- Reads all data into a store that is empty at first. -/
def readWhole (fuel : Nat) (s : σ) : Decoded :=
  match readKept read Store.probe [] s with
  | .error fault => ⟨[], some fault⟩
  | .ok ([], _, _) => ⟨[], none⟩
  | .ok (bytes, kept, s) => .after bytes (fill read fuel (.ofProbe bytes.length) kept s)

/-- All data of a decoder. -/
def Demand.collect (demand : Demand) (fuel : Nat) (s : σ) : Decoded :=
  match demand with
  | .portions => readPortions read fuel s
  | .whole => readWhole read fuel s

end Compression
end RecordFlow
