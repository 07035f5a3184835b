import RecordFlow.LogFilter.Pattern.Escape

/-!
# Pattern class — sets of characters between brackets

A class holds characters, ranges, kinds of characters and other classes, and operators between
them.  What counts is whether it is well formed, and how deeply it is nested.
-/

namespace RecordFlow
namespace Pattern

/-- A part of a class: how many things stand in it, and how deeply they are nested. -/
structure Union where
  count : Nat
  depth : Nat
deriving DecidableEq, Repr

def Union.empty : Union := ⟨0, 0⟩

def Union.add (u : Union) (depth : Nat) : Union := ⟨u.count + 1, max u.depth depth⟩

/-- The depth of a part; more things than one are a level of their own. -/
def Union.nesting (u : Union) : Nat := if 2 ≤ u.count then u.depth + 1 else u.depth

/-- An open class: what stands in front of its last operator, and what stands behind that. -/
structure OpenClass where
  front : Option Nat
  union : Union
deriving DecidableEq, Repr

namespace OpenClass

def empty : OpenClass := ⟨none, .empty⟩

def add (k : OpenClass) (depth : Nat) : OpenClass := { k with union := k.union.add depth }

/-- The depth of all that stands in a class. -/
def nesting (k : OpenClass) : Nat :=
  match k.front with
  | none => k.union.nesting
  | some depth => max depth k.union.nesting + 1

/-- An operator takes all that stands in front of it. -/
def operator (k : OpenClass) : OpenClass := ⟨some k.nesting, .empty⟩

end OpenClass

def classNames : List String :=
  ["alnum", "alpha", "ascii", "blank", "cntrl", "digit", "graph", "lower", "print", "punct",
    "space", "upper", "word", "xdigit"]

/-- The named class in front of a text: whether it is negated, and what follows it. -/
def namedClass? (cs : List Char) : Option (Bool × List Char) :=
  match cs with
  | '[' :: ':' :: rest =>
    let (negated, rest) := match rest with
      | '^' :: rest => (true, rest)
      | rest => (false, rest)
    let name := String.ofList (rest.takeWhile (· != ':'))
    match rest.dropWhile (· != ':') with
    | ':' :: ']' :: rest => if classNames.contains name then some (negated, rest) else none
    | _ => none
  | _ => none

def checkMember (m : Mode) (c : Char) : Except Fault Unit :=
  require (if m.unicode then !m.ignoresCase else c.toNat ≤ 0x7f)

def readMember (m : Mode) : List Char → Except Fault (Atom × List Char)
  | [] => malformed
  | '\\' :: cs => readEscape m cs
  | c :: cs => pure (.literal c false, cs)

/-- Checks one thing of a class that is not the start of a range. -/
def checkAtom (m : Mode) : Atom → Except Fault Unit
  | .literal c _ => checkMember m c
  | .kind negated => require (!m.unicode && !negated)
  | .place _ => malformed

def readRange (m : Mode) (cs : List Char) : Except Fault (List Char) := do
  let (first, rest) ← readMember m cs
  let rest ← m.skip? rest
  let single : Except Fault (List Char) := do
    checkAtom m first
    pure rest
  match rest with
  | '-' :: behind =>
    if m.next? behind = some ']' ∨ m.next? behind = some '-' then single
    else
      let (last, behind) ← readMember m (← m.skip? behind)
      match first, last with
      | .literal a _, .literal b _ =>
        checkMember m a
        checkMember m b
        require (a ≤ b)
        pure behind
      | _, _ => malformed
  | _ => single

/-- Reads hyphens at the start of a class: they stand for themselves. -/
def readHyphens (m : Mode) : Nat → OpenClass → List Char → Except Fault (OpenClass × List Char)
  | fuel + 1, k, '-' :: cs => do
    checkMember m '-'
    readHyphens m fuel (k.add 0) (← m.skip? cs)
  | _, k, cs => pure (k, cs)

/-- Opens a class behind its bracket.  A closing bracket at the start stands for itself. -/
def openClass (m : Mode) (cs : List Char) : Except Fault (OpenClass × List Char) := do
  let cs ← m.skip? cs
  let cs ← match cs with
    | '^' :: rest => do
      require m.unicode
      m.skip? rest
    | cs => pure cs
  let (k, cs) ← readHyphens m cs.length .empty cs
  match cs with
  | ']' :: rest =>
    if k.union.count = 0 then do
      checkMember m ']'
      pure (k.add 0, ← m.skip? rest)
    else pure (k, cs)
  | cs => pure (k, cs)

/-- Reads an open class up to its end, `outer` being the classes around it; answers its depth. -/
def readClass (m : Mode) :
    Nat → OpenClass → List OpenClass → List Char → Except Fault (Nat × List Char)
  | 0, _, _, _ => malformed
  | fuel + 1, k, outer, cs =>
    match m.skip cs with
    | [] => malformed
    | '[' :: rest =>
      match namedClass? ('[' :: rest) with
      | some (negated, rest) => do
        require (if m.unicode then !m.ignoresCase else !negated)
        readClass m fuel (k.add 0) outer rest
      | none => do
        let (inner, rest) ← openClass m rest
        readClass m fuel inner (k :: outer) rest
    | ']' :: rest =>
      match outer with
      | [] => pure (k.nesting + 1, rest)
      | around :: outer => readClass m fuel (around.add (k.nesting + 1)) outer rest
    | '&' :: '&' :: rest | '-' :: '-' :: rest | '~' :: '~' :: rest =>
      readClass m fuel k.operator outer rest
    | cs => do
      let rest ← readRange m cs
      readClass m fuel (k.add 0) outer rest

end Pattern
end RecordFlow
