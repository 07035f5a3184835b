import RecordFlow.LogFilter.Pattern.Class
import RecordFlow.Text.Letter

/-!
# Pattern expression — which texts are regular expressions

The value of a field can be described by a regular expression.  `Pattern.check` tells whether a text
is one that can be matched byte by byte:

* groups, classes, repetitions and escapes are well formed, and not nested too deeply;
* nothing in it needs a table of Unicode properties (there are none: such classes, and letters
  without regard to case, can be had for ASCII only, with the flag `u` off);
* with the flag `u` off it still matches whole characters only;
* it does not look for the boundary of a word, unless the flag `u` is off.

The text is read from the left with a stack of open groups.  Of what has been read, only what
decides on later characters is kept.
-/

namespace RecordFlow
namespace Pattern

/-- What is kept of an expression: how deeply it is nested, whether a repetition may follow it, and
whether it looks for a boundary of a word. -/
structure Piece where
  depth : Nat
  repeatable : Bool
  boundary : Bool
deriving DecidableEq, Repr

def Piece.simple : Piece := ⟨0, true, false⟩

/-- Several expressions in a row, or to choose from; more than one are a level of their own. -/
def Piece.join (ps : List Piece) : Piece :=
  let depth := (ps.map Piece.depth).foldl max 0
  ⟨if 2 ≤ ps.length then depth + 1 else depth, true, ps.any Piece.boundary⟩

/-- An open group, or the whole text: the mode behind it, the finished choices of it, and the row
that is being read, the last expression first. -/
structure Group where
  modeBehind : Mode
  choices : List Piece
  row : List Piece
deriving DecidableEq, Repr

namespace Group

def empty (modeBehind : Mode) : Group := ⟨modeBehind, [], []⟩

def add (g : Group) (p : Piece) : Group := { g with row := p :: g.row }

/-- A new choice begins. -/
def alternate (g : Group) : Group := { g with choices := .join g.row :: g.choices, row := [] }

def close (g : Group) : Piece := .join (.join g.row :: g.choices)

end Group

/-- What has been read: the mode, the innermost group and those around it, and the names of
groups. -/
structure State where
  mode : Mode
  group : Group
  outer : List Group
  names : List (List Char)
deriving DecidableEq, Repr

namespace State

def initial : State := ⟨.initial, .empty .initial, [], []⟩

def add (s : State) (p : Piece) : State := { s with group := s.group.add p }

def enter (s : State) (mode : Mode) : State :=
  { s with mode, group := .empty s.mode, outer := s.group :: s.outer }

/-- A closing parenthesis. -/
def leave (s : State) : Except Fault State :=
  match s.outer with
  | [] => malformed
  | around :: outer =>
    let inner := s.group.close
    pure { s with
      mode := s.group.modeBehind
      group := around.add { inner with depth := inner.depth + 1 }
      outer }

/-- Repeats the last expression; repeated no times, it looks for nothing. -/
def again (s : State) (never : Bool) : Except Fault State :=
  match s.group.row with
  | [] => malformed
  | p :: row => do
    require p.repeatable
    let p : Piece := ⟨p.depth + 1, true, p.boundary && !never⟩
    pure { s with group := { s.group with row := p :: row } }

def addAtom (s : State) : Atom → Except Fault State
  | .literal c isByte => do
    require (if s.mode.unicode then !s.mode.ignoresCase else !(isByte && 0x7f < c.toNat))
    pure (s.add .simple)
  | .kind negated => do
    require (!s.mode.unicode && !negated)
    pure (s.add .simple)
  | .place ofWord => pure (s.add { Piece.simple with boundary := ofWord && s.mode.unicode })

end State

/-- Reads decimal digits, blanks apart. -/
def readDecimalDigits (m : Mode) : Nat → List Char → List Char × List Char
  | 0, cs => ([], cs)
  | fuel + 1, cs =>
    match cs with
    | [] => ([], [])
    | c :: rest =>
      if c.isDigit then
        let (ds, rest) := readDecimalDigits m fuel (m.skip rest)
        (c :: ds, rest)
      else ([], cs)

/-- Reads a count of repetitions, which fits in thirty-two bits. -/
def readCount (m : Mode) (cs : List Char) : Except Fault (Nat × List Char) := do
  let cs := cs.dropWhile Blank.isBlank
  let (ds, rest) := readDecimalDigits m (cs.length + 1) cs
  let n := ds.foldl (fun n d => 10 * n + (d.toNat - 48)) 0
  require (!ds.isEmpty && n < Nat.pow 2 32)
  pure (n, m.skip (rest.dropWhile Blank.isBlank))

/-- A question mark behind a repetition makes it a reluctant one. -/
def dropReluctant : List Char → List Char
  | '?' :: cs => cs
  | cs => cs

/-- Reads a repetition with counts behind its brace. -/
def readCounts (s : State) (cs : List Char) : Except Fault (State × List Char) := do
  let m := s.mode
  let (least, rest) ← readCount m (← m.skip? cs)
  let (greatest, rest) ← match rest with
    | ',' :: rest => do
      match ← m.skip? rest with
      | '\x7d' :: rest => pure (none, '\x7d' :: rest)
      | rest => do
        let (greatest, rest) ← readCount m rest
        pure (some greatest, rest)
    | rest => pure (some least, rest)
  match rest with
  | '\x7d' :: rest => do
    require (greatest.all (least ≤ ·))
    let s ← s.again (greatest == some 0)
    pure (s, dropReluctant (m.skip rest))
  | _ => malformed

/-- A flag: what it changes in a mode. -/
def applyFlag (on : Bool) (m : Mode) : Char → Except Fault Mode
  | 'i' => pure { m with ignoresCase := on }
  | 'u' => pure { m with unicode := on }
  | 'x' => pure { m with ignoresBlanks := on }
  | 'm' | 's' | 'U' | 'R' => pure m
  | _ => malformed

/-- Reads flags up to a colon or a parenthesis; `seen` are those in front, the last one first. -/
def readFlags (on : Bool) (m : Mode) (seen : List Char) :
    List Char → Except Fault (Mode × List Char × Char × List Char)
  | [] => malformed
  | c :: cs =>
    if c = ':' ∨ c = ')' then
      if seen.head? = some '-' then malformed else pure (m, seen, c, cs)
    else if seen.contains c then malformed
    else if c = '-' then readFlags false m (c :: seen) cs
    else do
      let m ← applyFlag on m c
      readFlags on m (c :: seen) cs

def isNameChar (isFirst : Bool) (c : Char) : Bool :=
  if isFirst then c == '_' || Letter.isAlphabetic c
  else c == '_' || c == '.' || c == '[' || c == ']' || Letter.isAlphanumeric c

/-- Reads the name of a group and enters it. -/
def readName (s : State) (cs : List Char) : Except Fault (State × List Char) :=
  let name := cs.takeWhile (· != '>')
  match name, cs.dropWhile (· != '>') with
  | first :: others, '>' :: rest => do
    require (isNameChar true first && others.all (isNameChar false) && !s.names.contains name)
    pure ({ s with names := name :: s.names }.enter s.mode, rest)
  | _, _ => malformed

def readGroup (s : State) (cs : List Char) : Except Fault (State × List Char) :=
  match s.mode.skip cs with
  | '?' :: '=' :: _ | '?' :: '!' :: _ => malformed
  | '?' :: '<' :: '=' :: _ | '?' :: '<' :: '!' :: _ => malformed
  | '?' :: 'P' :: '<' :: rest | '?' :: '<' :: rest => readName s rest
  | '?' :: rest => do
    let (mode, seen, mark, rest) ← readFlags true s.mode [] rest
    if mark = ':' then pure (s.enter mode, rest)
    else do
      require (!seen.isEmpty)
      pure ({ s with mode }.add ⟨0, false, false⟩, rest)
  | rest => pure (s.enter s.mode, rest)

/-- Reads one thing from the front of a text. -/
def readOne (s : State) (c : Char) (cs : List Char) : Except Fault (State × List Char) :=
  match c with
  | '(' => readGroup s cs
  | ')' => do pure (← s.leave, cs)
  | '|' => pure ({ s with group := s.group.alternate }, cs)
  | '[' => do
    let (k, rest) ← openClass s.mode cs
    let (depth, rest) ← readClass s.mode (rest.length + 1) k [] rest
    pure (s.add ⟨depth, true, false⟩, rest)
  | '?' | '*' | '+' => do pure (← s.again false, dropReluctant cs)
  | '\x7b' => readCounts s cs
  | '\\' => do
    let (atom, rest) ← readEscape s.mode cs
    pure (← s.addAtom atom, rest)
  | '.' => do
    require s.mode.unicode
    pure (s.add .simple, cs)
  | '^' | '$' => pure (s.add .simple, cs)
  | c => do pure (← s.addAtom (.literal c false), cs)

/-- Reads a text to its end; every step takes a character at least. -/
def readAll : Nat → State → List Char → Except Fault State
  | 0, s, _ => pure s
  | fuel + 1, s, cs =>
    match s.mode.skip cs with
    | [] => pure s
    | c :: cs => do
      let (s, rest) ← readOne s c cs
      readAll fuel s rest

/-- How deeply an expression may be nested. -/
def depthLimit : Nat := 250

def check (cs : List Char) : Except Fault Unit := do
  let s ← readAll cs.length .initial cs
  require s.outer.isEmpty
  let whole := s.group.close
  require (whole.depth ≤ depthLimit)
  if whole.boundary then .error .wordBoundary else pure ()

end Pattern
end RecordFlow
