/-!
# Bits — a deflated stream bit by bit

The least significant bit of a byte comes first, in the stream as in a number that is read from it.
Bits know how many there were in front of them.
-/

namespace RecordFlow
namespace Deflate

/-- Bits that are to be read, and the count of those in front of them. -/
structure Bits where
  rest : List Bool
  used : Nat

/-- Why the data stops before its end: the input does, or what was read with its first `used` bits
is no part of a stream. -/
inductive Fault where
  | truncated
  | corrupt (used : Nat)
deriving DecidableEq, Repr

def byteBits (b : UInt8) : List Bool :=
  (List.range 8).map fun i => b.toNat.testBit i

def Bits.ofBytes (bytes : List UInt8) : Bits := ⟨bytes.flatMap byteBits, 0⟩

/-- The bits from the next whole byte on. -/
def Bits.aligned (bits : Bits) : Bits :=
  let n := (8 - bits.used % 8) % 8
  ⟨bits.rest.drop n, bits.used + n⟩

/-- Reads a number of `n` bits, the least significant first. -/
def number : Nat → Bits → Except Fault (Nat × Bits)
  | 0, bits => .ok (0, bits)
  | _ + 1, ⟨[], _⟩ => .error .truncated
  | n + 1, ⟨b :: rest, used⟩ => do
    let (value, bits) ← number n ⟨rest, used + 1⟩
    pure ((if b then 1 else 0) + 2 * value, bits)

end Deflate
end RecordFlow
