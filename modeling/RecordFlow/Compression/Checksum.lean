/-!
# Checksum — the two sums that compressed files carry

* `crc32` is the cyclic redundancy check with the reflected polynomial `0xedb88320`,
* `xxHash64` is the 64-bit xxHash with seed zero.
-/

namespace RecordFlow
namespace Checksum

/-! ## Numbers in bytes -/

/-- The number that bytes stand for, the least significant first. -/
def littleEndian : List UInt8 → Nat
  | [] => 0
  | b :: rest => b.toNat + 256 * littleEndian rest

/-! ## Cyclic redundancy check -/

/-- One bit of division by the polynomial. -/
def crcBit (crc : UInt32) : UInt32 :=
  if crc &&& 1 = 1 then (crc >>> 1) ^^^ 0xedb88320 else crc >>> 1

def crcBits : Nat → UInt32 → UInt32
  | 0, crc => crc
  | n + 1, crc => crcBits n (crcBit crc)

def crcByte (crc : UInt32) (b : UInt8) : UInt32 := crcBits 8 (crc ^^^ b.toUInt32)

def crc32 (bytes : List UInt8) : UInt32 := ~~~ (bytes.foldl crcByte (~~~ 0))

/-! ## xxHash -/

def prime1 : UInt64 := 0x9e3779b185ebca87
def prime2 : UInt64 := 0xc2b2ae3d27d4eb4f
def prime3 : UInt64 := 0x165667b19e3779f9
def prime4 : UInt64 := 0x85ebca77c2b2ae63
def prime5 : UInt64 := 0x27d4eb2f165667c5

def rotateLeft (x : UInt64) (n : UInt64) : UInt64 := (x <<< n) ||| (x >>> (64 - n))

def xxRound (acc input : UInt64) : UInt64 := rotateLeft (acc + input * prime2) 31 * prime1

def xxMerge (acc value : UInt64) : UInt64 := (acc ^^^ xxRound 0 value) * prime1 + prime4

def word64 (bytes : List UInt8) : UInt64 := .ofNat (littleEndian (bytes.take 8))

/-- The four lanes of the hash. -/
structure Lanes where
  a : UInt64
  b : UInt64
  c : UInt64
  d : UInt64

def Lanes.initial : Lanes := ⟨prime1 + prime2, prime2, 0, 0 - prime1⟩

/-- Takes in one stripe of 32 bytes. -/
def Lanes.stripe (l : Lanes) (bytes : List UInt8) : Lanes :=
  ⟨xxRound l.a (word64 bytes), xxRound l.b (word64 (bytes.drop 8)),
    xxRound l.c (word64 (bytes.drop 16)), xxRound l.d (word64 (bytes.drop 24))⟩

def Lanes.stripes : Nat → Lanes → List UInt8 → Lanes × List UInt8
  | 0, l, bytes => (l, bytes)
  | n + 1, l, bytes => Lanes.stripes n (l.stripe bytes) (bytes.drop 32)

def Lanes.join (l : Lanes) : UInt64 :=
  let sum := rotateLeft l.a 1 + rotateLeft l.b 7 + rotateLeft l.c 12 + rotateLeft l.d 18
  xxMerge (xxMerge (xxMerge (xxMerge sum l.a) l.b) l.c) l.d

/-- Takes in whole words of eight bytes. -/
def xxWords : Nat → UInt64 → List UInt8 → UInt64 × List UInt8
  | 0, h, bytes => (h, bytes)
  | n + 1, h, bytes =>
    xxWords n (rotateLeft (h ^^^ xxRound 0 (word64 bytes)) 27 * prime1 + prime4) (bytes.drop 8)

/-- Takes in a half word of four bytes, if it is there. -/
def xxHalf (h : UInt64) (bytes : List UInt8) : UInt64 × List UInt8 :=
  if bytes.length < 4 then (h, bytes)
  else
    let half : UInt64 := .ofNat (littleEndian (bytes.take 4))
    (rotateLeft (h ^^^ half * prime1) 23 * prime2 + prime3, bytes.drop 4)

def xxByte (h : UInt64) (b : UInt8) : UInt64 :=
  rotateLeft (h ^^^ b.toUInt64 * prime5) 11 * prime1

def xxAvalanche (h : UInt64) : UInt64 :=
  let h := (h ^^^ (h >>> 33)) * prime2
  let h := (h ^^^ (h >>> 29)) * prime3
  h ^^^ (h >>> 32)

def xxHash64 (bytes : List UInt8) : UInt64 :=
  let length := bytes.length
  let (start, rest) :=
    if length < 32 then (prime5, bytes)
    else
      let (lanes, rest) := Lanes.initial.stripes (length / 32) bytes
      (lanes.join, rest)
  let (h, rest) := xxWords (rest.length / 8) (start + .ofNat length) rest
  let (h, rest) := xxHalf h rest
  xxAvalanche (rest.foldl xxByte h)

end Checksum
end RecordFlow
