import RecordFlow.Json.Value
import RecordFlow.Number.Shortest

/-!
# Json printer — compact and indented text

A string escapes the quotation mark, the backslash and the control characters below the space, and
nothing else.  `render` puts no white space between tokens, `pretty` puts every item and member of
a container that is not empty on a line of its own, indented by two spaces a level.

This is the text that serde_json writes, with members in the order in which they were inserted.
-/

namespace RecordFlow
namespace Json

/-! ## Leaves -/

def hexDigit (n : Nat) : Char :=
  if n < 10 then Char.ofNat (48 + n) else Char.ofNat (87 + n)

/-- What stands for a character inside a quoted string. -/
def escapeChar (c : Char) : List Char :=
  if c = '"' then ['\\', '"']
  else if c = '\\' then ['\\', '\\']
  else if c.toNat = 8 then ['\\', 'b']
  else if c.toNat = 9 then ['\\', 't']
  else if c.toNat = 10 then ['\\', 'n']
  else if c.toNat = 12 then ['\\', 'f']
  else if c.toNat = 13 then ['\\', 'r']
  else if c.toNat < 32 then ['\\', 'u', '0', '0', hexDigit (c.toNat / 16), hexDigit (c.toNat % 16)]
  else [c]

def quote (s : String) : List Char :=
  '"' :: (s.toList.flatMap escapeChar ++ ['"'])

/-- The text of a number; JSON has no text for infinity and NaN, `null` stands for them. -/
def numberText : Binary64 → List Char
  | .finite s m q => (Shortest.finiteText .scientific s m q).toList
  | _ => "null".toList

/-- The text of a value that contains no other, nothing for a container. -/
def leafText : Json → List Char
  | .null => "null".toList
  | .bool true => "true".toList
  | .bool false => "false".toList
  | .natural n => Nat.toDigits 10 n
  | .number x => numberText x
  | .string s => quote s
  | .array _ | .object _ => []

/-! ## Compact text -/

mutual

def renderChars : Json → List Char
  | .array items => '[' :: (renderItems items ++ [']'])
  | .object members => '\x7b' :: (renderMembers members ++ ['\x7d'])
  | .null => leafText .null
  | .bool b => leafText (.bool b)
  | .natural n => leafText (.natural n)
  | .number x => leafText (.number x)
  | .string s => leafText (.string s)
termination_by structural json => json

def renderItems : List Json → List Char
  | [] => []
  | [item] => renderChars item
  | item :: rest => renderChars item ++ ',' :: renderItems rest
termination_by structural items => items

def renderMembers : List (String × Json) → List Char
  | [] => []
  | [member] => renderMember member
  | member :: rest => renderMember member ++ ',' :: renderMembers rest
termination_by structural members => members

def renderMember : String × Json → List Char
  | (key, value) => quote key ++ ':' :: renderChars value
termination_by structural member => member

end

def render (json : Json) : String := String.ofList (renderChars json)

/-! ## Indented text -/

/-- A line break and the indentation of a level. -/
def lineBreak (level : Nat) : List Char := '\n' :: List.replicate (2 * level) ' '

mutual

/-- The text of a value at a level of indentation. -/
def prettyChars (level : Nat) : Json → List Char
  | .array [] => ['[', ']']
  | .array items => '[' :: (prettyItems (level + 1) items ++ lineBreak level ++ [']'])
  | .object [] => ['\x7b', '\x7d']
  | .object members => '\x7b' :: (prettyMembers (level + 1) members ++ lineBreak level ++ ['\x7d'])
  | .null => leafText .null
  | .bool b => leafText (.bool b)
  | .natural n => leafText (.natural n)
  | .number x => leafText (.number x)
  | .string s => leafText (.string s)
termination_by structural json => json

def prettyItems (level : Nat) : List Json → List Char
  | [] => []
  | [item] => lineBreak level ++ prettyChars level item
  | item :: rest => lineBreak level ++ prettyChars level item ++ ',' :: prettyItems level rest
termination_by structural items => items

def prettyMembers (level : Nat) : List (String × Json) → List Char
  | [] => []
  | [member] => lineBreak level ++ prettyMember level member
  | member :: rest =>
    lineBreak level ++ prettyMember level member ++ ',' :: prettyMembers level rest
termination_by structural members => members

def prettyMember (level : Nat) : String × Json → List Char
  | (key, value) => quote key ++ ':' :: ' ' :: prettyChars level value
termination_by structural member => member

end

def pretty (json : Json) : String := String.ofList (prettyChars 0 json)

end Json
end RecordFlow
