/-!
# Words — splitting a line as a shell does

Words are set apart by blanks.  Single quotes keep everything between them; double quotes keep
everything but a backslash before a dollar sign, a backquote, a double quote or a backslash; outside
quotes a backslash keeps the next character.  A number sign at the start of a word begins a comment
that lasts to the end of the line, and a backslash joins a line to the next.

The rules are those of the library shell-words, and assumed of it.
-/

namespace RecordFlow
namespace Words

/-- Where the splitter is. -/
inductive Mode where
  | between
  | comment
  | bare
  /-- Behind a backslash at the start of a word. -/
  | escapedStart
  /-- Behind a backslash in a word. -/
  | escaped
  | single
  | double
  /-- Behind a backslash in double quotes. -/
  | escapedDouble
deriving DecidableEq, Repr

/-- The characters that set words apart. -/
def isSeparator (c : Char) : Bool := c == ' ' || c == '\t' || c == '\n'

/-- The characters that a backslash keeps from their meaning in double quotes. -/
def isSpecial (c : Char) : Bool := c == '$' || c.toNat == 0x60 || c == '"' || c == '\\'

/-- The splitter between two characters; the word and the words are reversed. -/
structure State where
  mode : Mode
  word : List Char
  words : List (List Char)

namespace State

def initial : State := ⟨.between, [], []⟩

def keep (s : State) (c : Char) (mode : Mode) : State := { s with word := c :: s.word, mode }

def endWord (s : State) : State := ⟨.between, [], s.word.reverse :: s.words⟩

def step (s : State) (c : Char) : State :=
  match s.mode with
  | .between =>
    if c = '\'' then { s with mode := .single }
    else if c = '"' then { s with mode := .double }
    else if c = '\\' then { s with mode := .escapedStart }
    else if isSeparator c then s
    else if c = '#' then { s with mode := .comment }
    else s.keep c .bare
  | .comment => if c = '\n' then { s with mode := .between } else s
  | .bare =>
    if c = '\'' then { s with mode := .single }
    else if c = '"' then { s with mode := .double }
    else if c = '\\' then { s with mode := .escaped }
    else if isSeparator c then s.endWord
    else s.keep c .bare
  -- a backslash in front of a line break continues the line
  | .escapedStart => if c = '\n' then { s with mode := .between } else s.keep c .bare
  | .escaped => if c = '\n' then { s with mode := .bare } else s.keep c .bare
  | .single => if c = '\'' then { s with mode := .bare } else s.keep c .single
  | .double =>
    if c = '"' then { s with mode := .bare }
    else if c = '\\' then { s with mode := .escapedDouble }
    else s.keep c .double
  | .escapedDouble =>
    if c = '\n' then { s with mode := .double }
    else if isSpecial c then s.keep c .double
    else (s.keep '\\' .double).keep c .double

/-- The words at the end of the line, `none` inside quotes. -/
def finish? (s : State) : Option (List (List Char)) :=
  match s.mode with
  | .between | .comment => some s.words.reverse
  | .bare => some s.endWord.words.reverse
  | .escapedStart | .escaped => some (s.keep '\\' .bare).endWord.words.reverse
  | .single | .double | .escapedDouble => none

end State

/-- The words of a line, `none` if a quote is not closed. -/
def split? (line : String) : Option (List String) :=
  (line.toList.foldl State.step .initial).finish?.map fun words => words.map String.ofList

/-- The text of the failure to split a line. -/
def splitFault : String := "missing closing quote"

end Words
end RecordFlow
