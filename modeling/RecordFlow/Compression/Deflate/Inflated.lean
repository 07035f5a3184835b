import RecordFlow.Compression.Deflate.Code

/-!
# Inflated — blocks of literals and copies

A deflated stream is a sequence of blocks, each stored as it is or written in two prefix codes: one
for literal bytes and lengths of copies, one for the distances that copies reach back.

`inflate` answers with all data up to the end, to the point where the input breaks off, or to the
first thing that is no part of such a stream.  It marks how many bits had to be read for each part
of the data, so that one can tell what a shorter piece of the input would have given.
-/

namespace RecordFlow
namespace Deflate

/-! ## Lengths and distances -/

/-- The least length and the extra bits of a length symbol. -/
def lengthBase? (symbol : Nat) : Option (Nat × Nat) :=
  [(3, 0), (4, 0), (5, 0), (6, 0), (7, 0), (8, 0), (9, 0), (10, 0), (11, 1), (13, 1), (15, 1),
   (17, 1), (19, 2), (23, 2), (27, 2), (31, 2), (35, 3), (43, 3), (51, 3), (59, 3), (67, 4),
   (83, 4), (99, 4), (115, 4), (131, 5), (163, 5), (195, 5), (227, 5), (258, 0)][symbol - 257]?

/-- The least distance and the extra bits of a distance symbol. -/
def distanceBase? (symbol : Nat) : Option (Nat × Nat) :=
  if 30 ≤ symbol then none
  else if symbol < 2 then some (symbol + 1, 0)
  else
    let extra := symbol / 2 - 1
    some ((2 + symbol % 2) * Nat.pow 2 extra + 1, extra)

def withExtra (base : Option (Nat × Nat)) (bits : Bits) : Except Fault (Nat × Bits) := do
  match base with
  | none => throw (.corrupt bits.used)
  | some (least, extra) =>
    let (more, rest) ← number extra bits
    pure (least + more, rest)

/-! ## Blocks -/

structure Codes where
  literals : Code
  distances : Code

/-- The end of a part of the data: the part ends at the byte `size`, it can be written once `ready`
bits have been read, and as long as there is no room for it, `held` bits are read. -/
structure Mark where
  size : Nat
  ready : Nat
  held : Nat
deriving DecidableEq, Repr, Inhabited

/-- Data inflated so far, its marks, and the bits that follow. -/
structure State where
  data : Array UInt8
  marks : Array Mark
  bits : Bits

/-- A state with its data up to the bits that have been read. -/
def State.mark (data : Array UInt8) (marks : Array Mark) (held : Nat) (bits : Bits) : State :=
  ⟨data, marks.push ⟨data.size, bits.used, held⟩, bits⟩

/-- A state, and the fault that it ends with. -/
abbrev Progress := State × Option Fault

/-- Copies bytes from `distance` back.  Before the data lie zeros. -/
def copy (distance : Nat) : Nat → Array UInt8 → Array UInt8
  | 0, data => data
  | n + 1, data =>
    let b := if distance ≤ data.size then data.getD (data.size - distance) 0 else 0
    copy distance n (data.push b)

/-- What one word of a block and the bits that belong to it say. -/
inductive Item where
  | literal (b : UInt8)
  | copy (length distance : Nat)
  | stop
deriving DecidableEq, Repr

def Item.read (codes : Codes) (bits : Bits) : Except Fault (Item × Bits) := do
  let (symbol, bits) ← codes.literals.read bits
  if symbol < 256 then pure (.literal (.ofNat symbol), bits)
  else if symbol = 256 then pure (.stop, bits)
  else
    let (length, bits) ← withExtra (lengthBase? symbol) bits
    let (symbol, bits) ← codes.distances.read bits
    let (distance, bits) ← withExtra (distanceBase? symbol) bits
    pure (.copy length distance, bits)

/-- The items of a block; every one takes a bit at least, so that the count of bits is fuel. -/
def items (codes : Codes) : Nat → State → Progress
  | 0, s => (s, some .truncated)
  | fuel + 1, ⟨data, marks, bits⟩ =>
    match Item.read codes bits with
    | .error fault => (⟨data, marks, bits⟩, some fault)
    | .ok (.stop, bits) => (⟨data, marks, bits⟩, none)
    | .ok (.literal b, bits) => items codes fuel (.mark (data.push b) marks bits.used bits)
    | .ok (.copy length distance, bits) =>
      items codes fuel (.mark (copy distance length data) marks bits.used bits)

/-- Takes whole bytes as they are; they are not read before there is room for them. -/
def storedBytes : Nat → State → Progress
  | 0, s => (s, none)
  | n + 1, ⟨data, marks, bits⟩ =>
    match number 8 bits with
    | .error fault => (⟨data, marks, bits⟩, some fault)
    | .ok (b, behind) => storedBytes n (.mark (data.push (.ofNat b)) marks bits.used behind)

/-- A stored block: it starts at a whole byte with its length and the complement of that. -/
def stored (s : State) : Progress :=
  let header : Except Fault (Nat × Bits) := do
    let (length, bits) ← number 16 s.bits.aligned
    let (complement, bits) ← number 16 bits
    if length + complement = 0xffff then pure (length, bits) else throw (.corrupt bits.used)
  match header with
  | .error fault => (s, some fault)
  | .ok (length, bits) => storedBytes length { s with bits }

/-- The codes with the given lengths of words, as they stand in front of `bits`. -/
def codesOf (literals distances : List Nat) (bits : Bits) : Except Fault (Codes × Bits) :=
  match Code.ofLengths? true literals, Code.ofLengths? true distances with
  | some literals, some distances => .ok (⟨literals, distances⟩, bits)
  | _, _ => .error (.corrupt bits.used)

def fixedCodes (bits : Bits) : Except Fault (Codes × Bits) :=
  let literals := List.replicate 144 8 ++ List.replicate 112 9 ++ List.replicate 24 7 ++
    List.replicate 8 8
  codesOf literals (List.replicate 32 5) bits

/-- The order in which a block lists the lengths of the code for its lengths. -/
def lengthOrder : List Nat := [16, 17, 18, 0, 8, 7, 9, 6, 10, 5, 11, 4, 12, 3, 13, 2, 14, 1, 15]

/-- Reads `n` numbers of three bits. -/
def threes : Nat → Bits → Except Fault (List Nat × Bits)
  | 0, bits => .ok ([], bits)
  | n + 1, bits => do
    let (value, bits) ← number 3 bits
    let (values, bits) ← threes n bits
    pure (value :: values, bits)

/-- Reads lengths of words until there are `total`; `acc` holds them reversed.  A symbol above 15
repeats the last length or zero. -/
def lengths (code : Code) (total : Nat) :
    Nat → List Nat → Bits → Except Fault (List Nat × Bits)
  | 0, _, _ => .error .truncated
  | fuel + 1, acc, bits =>
    if acc.length = total then .ok (acc.reverse, bits)
    else if total < acc.length then .error (.corrupt bits.used)
    else do
      let (symbol, bits) ← code.read bits
      if symbol < 16 then lengths code total fuel (symbol :: acc) bits
      else if symbol = 16 then
        match acc with
        | [] => throw (.corrupt bits.used)
        | last :: _ =>
          let (n, bits) ← number 2 bits
          lengths code total fuel (List.replicate (n + 3) last ++ acc) bits
      else
        let (n, bits) ← number (if symbol = 17 then 3 else 7) bits
        lengths code total fuel (List.replicate (n + if symbol = 17 then 3 else 11) 0 ++ acc) bits

def ownCodes (bits : Bits) : Except Fault (Codes × Bits) := do
  let (literals, bits) ← number 5 bits
  let (distances, bits) ← number 5 bits
  let (count, bits) ← number 4 bits
  let literals := literals + 257
  let distances := distances + 1
  if 286 < literals || 30 < distances then throw (.corrupt bits.used)
  let (listed, bits) ← threes (count + 4) bits
  let lengthOf (symbol : Nat) : Nat := listed.getD (lengthOrder.idxOf symbol) 0
  match Code.ofLengths? false ((List.range 19).map lengthOf) with
  | none => throw (.corrupt bits.used)
  | some code =>
    let total := literals + distances
    let (all, bits) ← lengths code total (total + 1) [] bits
    codesOf (all.take literals) (all.drop literals) bits

def coded (codes : Except Fault (Codes × Bits)) (s : State) : Progress :=
  match codes with
  | .error fault => (s, some fault)
  | .ok (codes, bits) => items codes (bits.rest.length + 1) { s with bits }

/-- One block, and whether it is the last. -/
def block (s : State) : Bool × Progress :=
  match number 1 s.bits with
  | .error fault => (true, s, some fault)
  | .ok (last, bits) =>
    let s' := { s with bits }
    let progress :=
      match number 2 bits with
      | .error fault => (s, some fault)
      | .ok (0, bits) => stored { s' with bits }
      | .ok (1, bits) => coded (fixedCodes bits) s'
      | .ok (2, bits) => coded (ownCodes bits) s'
      | .ok (_, bits) => (s, some (.corrupt bits.used))
    (last = 1, progress)

/-- Blocks up to the last one; each takes a bit at least. -/
def blocks : Nat → State → Progress
  | 0, s => (s, some .truncated)
  | fuel + 1, s =>
    match block s with
    | (_, s, some fault) => (s, some fault)
    | (true, s, none) => (s, none)
    | (false, s, none) => blocks fuel s

/-! ## Streams -/

/-- What a stream comes to behind all its data, with the count of bits read for it. -/
inductive Ending where
  | complete (used : Nat)
  | corrupt (used : Nat)
  | truncated
deriving DecidableEq, Repr, Inhabited

/-- What a stream inflates to. -/
structure Inflated where
  data : Array UInt8
  marks : Array Mark
  ending : Ending
deriving Inhabited

def inflate (bytes : List UInt8) : Inflated :=
  let bits := Bits.ofBytes bytes
  let (s, fault) := blocks (bits.rest.length + 1) ⟨#[], #[], bits⟩
  let ending := match fault with
    | none => .complete s.bits.used
    | some (.corrupt used) => .corrupt used
    | some .truncated => .truncated
  ⟨s.data, s.marks, ending⟩

end Deflate
end RecordFlow
