import RecordFlow.Text.Blank

/-!
# Pattern mode — what the flags of a regular expression change

A pattern can be matched byte by byte if it is well formed and needs no table of Unicode properties;
why it cannot is its fault.  With the flag `x` blanks and comments in it mean nothing.
-/

namespace RecordFlow
namespace Pattern

/-- Why a text cannot be matched. -/
inductive Fault where
  | malformed
  | wordBoundary
deriving DecidableEq, Repr

def Fault.message : Fault → String
  | .malformed => "error building NFA"
  | .wordBoundary =>
    "unsupported regex feature for DFAs: cannot build DFAs for regexes with Unicode word " ++
      "boundaries; switch to ASCII word boundaries, or heuristically enable Unicode word " ++
      "boundaries or use a different regex engine"

def malformed : Except Fault α := .error .malformed

/-- Goes on only if a condition holds. -/
def require (condition : Bool) : Except Fault Unit := if condition then pure () else malformed

/-- The flags that decide on what follows. -/
structure Mode where
  unicode : Bool
  ignoresCase : Bool
  ignoresBlanks : Bool
deriving DecidableEq, Repr

def Mode.initial : Mode := ⟨true, false, false⟩

/-! ## Blanks and comments -/

/-- Drops blanks and comments; a comment ends with its line. -/
def dropBlanks (inComment : Bool) : List Char → List Char
  | [] => []
  | c :: cs =>
    if inComment then dropBlanks (c != '\n') cs
    else if Blank.isBlank c then dropBlanks false cs
    else if c = '#' then dropBlanks true cs
    else c :: cs

/-- Drops what does not count. -/
def Mode.skip (m : Mode) (cs : List Char) : List Char :=
  if m.ignoresBlanks then dropBlanks false cs else cs

/-- Drops what does not count, if something follows. -/
def Mode.skip? (m : Mode) (cs : List Char) : Except Fault (List Char) :=
  match m.skip cs with
  | [] => malformed
  | cs => pure cs

/-- The next character that counts, as seen from the one before: a comment mark in front of it is
passed over. -/
def Mode.next? (m : Mode) (cs : List Char) : Option Char :=
  if m.ignoresBlanks then
    match cs.dropWhile Blank.isBlank with
    | '#' :: rest => (rest.dropWhile Blank.isBlank).head?
    | rest => rest.head?
  else cs.head?

end Pattern
end RecordFlow
