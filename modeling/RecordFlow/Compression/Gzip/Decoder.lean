import RecordFlow.Compression.Gzip.Body
import RecordFlow.Compression.Stream

/-!
# Gzip decoder — a file of members

A member has a header, deflated data and a trailer, which holds the checksum of the data and the
count of its bytes; they are compared after the data has been handed on.

Members follow one another as in the reader of flate2 for files of many members: what stands behind
a member is another member or a fault.  This, and the order of the checks, is assumed.
-/

namespace RecordFlow
namespace Gzip

/-- Where in a file the decoder stands. -/
inductive Decoder where
  /-- In front of a member. -/
  | header (total : Nat) (bytes : List UInt8)
  /-- In a member, the deflated data of which begins with the given bytes. -/
  | body (bytes : List UInt8) (b : Body)
  | finished

namespace Decoder

def ofBytes (bytes : List UInt8) : Decoder := .header bytes.length bytes

/-- The bytes behind a member, the trailer of which must agree with its data. -/
def skipTrailer (bytes : List UInt8) (b : Body) : Except Fault (List UInt8) := do
  let data := b.inflated.data.toList
  let trailer := bytes.drop (b.position - b.start)
  let rest ← skip 8 trailer
  let sum := Checksum.littleEndian (trailer.take 4)
  let size := Checksum.littleEndian ((trailer.drop 4).take 4)
  if sum = (Checksum.crc32 data).toNat ∧ size = data.length % Nat.pow 2 32 then pure rest
  else throw .checksum

/-- A request for at most `n` bytes; each member takes a byte at least, so that the count of bytes
is fuel. -/
def read (n : Nat) : Nat → Decoder → Except Fault (List UInt8 × Decoder)
  | 0, d => .ok ([], d)
  | _ + 1, .finished => .ok ([], .finished)
  | fuel + 1, .header total bytes => do
    let body ← skipHeader bytes
    read n fuel (.body body (.ofBytes total body))
  | fuel + 1, .body bytes b => do
    let before := b.written
    let b ← b.request n (b.total + 2)
    if b.written ≠ before then
      pure ((b.inflated.data.extract before b.written).toList, .body bytes b)
    else
      match ← skipTrailer bytes b with
      | [] => pure ([], .finished)
      | rest => read n fuel (.header b.total rest)

end Decoder

def decode (demand : Compression.Demand) (bytes : List UInt8) : Compression.Decoded :=
  let fuel := 2 * bytes.length + 2
  let read (n : Nat) (d : Decoder) : Except String (List UInt8 × Decoder) :=
    (d.read n fuel).mapError Fault.message
  demand.collect read (Compression.dataLimit bytes) (.ofBytes bytes)

end Gzip
end RecordFlow
