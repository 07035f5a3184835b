import RecordFlow.Compression.Deflate.Bits

/-!
# Code — prefix codes from the lengths of their words

The words of a code are the paths of a binary tree.  They follow from their lengths alone: words of
one length count upward in the order of their symbols, and longer words follow shorter ones.
-/

namespace RecordFlow
namespace Deflate

/-- The words of a prefix code as paths in a tree. -/
inductive Code where
  | empty
  | word (symbol : Nat)
  | fork (zero one : Code)
deriving DecidableEq, Repr, Inhabited

namespace Code

def insert (symbol : Nat) : List Bool → Code → Code
  | [], _ => .word symbol
  | bit :: rest, .fork zero one =>
    if bit then .fork zero (insert symbol rest one) else .fork (insert symbol rest zero) one
  | bit :: rest, _ =>
    let deeper := insert symbol rest .empty
    if bit then .fork .empty deeper else .fork deeper .empty

def read : Code → Bits → Except Fault (Nat × Bits)
  | .empty, bits => .error (.corrupt bits.used)
  | .word symbol, bits => .ok (symbol, bits)
  | .fork _ _, ⟨[], _⟩ => .error .truncated
  | .fork zero one, ⟨bit :: rest, used⟩ =>
    if bit then one.read ⟨rest, used + 1⟩ else zero.read ⟨rest, used + 1⟩

def longest : Nat := 15

/-- The `length` low bits of a number, the most significant first. -/
def bitsDown (length value : Nat) : List Bool :=
  ((List.range length).map value.testBit).reverse

/-- The first word of every length: words of one length count upward, and longer words follow
shorter ones. -/
def firstWord (lengths : List Nat) : Nat → Nat
  | 0 => 0
  | n + 1 => 2 * (firstWord lengths n + if n = 0 then 0 else lengths.count n)

/-- Adds the words of one length, `symbol` being the symbol of the first entry. -/
def addWords (length : Nat) (symbol next : Nat) (code : Code) : List Nat → Code
  | [] => code
  | l :: rest =>
    if l = length then
      addWords length (symbol + 1) (next + 1) (code.insert symbol (bitsDown length next)) rest
    else addWords length (symbol + 1) next code rest

/-- How much of the space of all words the words of a code take up, in units of the longest. -/
def space (lengths : List Nat) : Nat :=
  (lengths.map fun l => if l = 0 then 0 else Nat.pow 2 (longest - l)).foldr (· + ·) 0

/-- Whether lengths make a code.  It has to use the whole space of words, except that one word of a
single bit, or none, may do where `lone` allows it. -/
def admits (lone : Bool) (lengths : List Nat) : Bool :=
  let used := lengths.filter (· ≠ 0)
  space lengths = Nat.pow 2 longest || (lone && (used = [] || used = [1]))

/-- The code with the given lengths of words, zero for a symbol without one.  A bit has to be read
before it shows that there is no word. -/
def ofLengths? (lone : Bool) (lengths : List Nat) : Option Code :=
  if admits lone lengths then
    some ((List.range longest).foldl
      (fun code n => addWords (n + 1) 0 (firstWord lengths (n + 1)) code lengths)
      (.fork .empty .empty))
  else none

end Code

end Deflate
end RecordFlow
