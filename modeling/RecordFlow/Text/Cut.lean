import RecordFlow.Text.Shown

/-!
# Cut — the part of a text between two bytes

Offsets count the bytes of the text in UTF-8.  A cut that falls inside a character is refused, with
the character that it falls into; of two such cuts the first is the one reported.
-/

namespace RecordFlow
namespace Cut

/-- The end of a part that falls inside a character. -/
inductive Edge where
  | start
  | finish
deriving DecidableEq, Repr

def Edge.label : Edge → String
  | .start => "start"
  | .finish => "end"

/-- A cut inside a character, which begins at the byte `first`. -/
structure Fault where
  edge : Edge
  offset : Nat
  char : Char
  first : Nat
deriving DecidableEq, Repr

def Fault.message (f : Fault) : String :=
  f.edge.label ++ " byte index " ++ toString f.offset ++
    " is not a char boundary; it is inside " ++ Shown.quoted f.char ++ " (bytes " ++
    toString f.first ++ ".." ++ toString (f.first + f.char.utf8Size) ++ " of string)"

/-- The character that a cut falls into, and how many of its bytes are in front of the cut. -/
def inside? : Nat → List Char → Option (Char × Nat)
  | _, [] => none
  | n, c :: cs =>
    if n = 0 then none
    else if n < c.utf8Size then some (c, n)
    else inside? (n - c.utf8Size) cs

/-- The characters that begin before a byte. -/
def before : Nat → List Char → List Char
  | _, [] => []
  | n, c :: cs => if n = 0 then [] else c :: before (n - c.utf8Size) cs

/-- The characters that do not begin before a byte. -/
def behind : Nat → List Char → List Char
  | _, [] => []
  | n, c :: cs => if n = 0 then c :: cs else behind (n - c.utf8Size) cs

/-- Refuses a cut inside a character. -/
def check (edge : Edge) (offset : Nat) (cs : List Char) : Except Fault Unit :=
  match inside? offset cs with
  | some (c, part) => .error ⟨edge, offset, c, offset - part⟩
  | none => .ok ()

def between (start finish : Nat) (cs : List Char) : Except Fault (List Char) := do
  check .start start cs
  check .finish finish cs
  pure (behind start (before finish cs))

def suffixFrom (start : Nat) (cs : List Char) : Except Fault (List Char) := do
  check .start start cs
  pure (behind start cs)

end Cut
end RecordFlow
