import RecordFlow.Text.Blank

/-!
# Config — default arguments and aliases

A configuration has default arguments for every command and a table of aliases, sorted by name.  It
is read from lines: blank ones and comments are passed over, a name in brackets begins a section,
and a setting is a key and a value around the first equals sign.  Only the key `defaults` before any
section and the settings of the section `aliases` mean something.  A later setting takes the place
of an earlier one of the same key, in one text as well as between two configurations.
-/

namespace RecordFlow

structure Config where
  defaults : Option String
  aliases : List (String × String)
deriving DecidableEq, Repr, Inhabited

namespace Config

def empty : Config := ⟨none, []⟩

/-! ## Aliases -/

/-- Sets the value of a name in a sorted table. -/
def setAlias (name value : String) : List (String × String) → List (String × String)
  | [] => [(name, value)]
  | (n, v) :: rest =>
    if n = name then (name, value) :: rest
    else if name < n then (name, value) :: (n, v) :: rest
    else (n, v) :: setAlias name value rest

def alias? (c : Config) (name : String) : Option String :=
  (c.aliases.find? fun a => a.1 == name).map (·.2)

/-- What a name stands for after it has been set. -/
theorem find?_setAlias (name value : String) (table : List (String × String)) (n : String) :
    ((setAlias name value table).find? fun a => a.1 == n).map (·.2) =
      if name = n then some value else (table.find? fun a => a.1 == n).map (·.2) := by
  induction table with
  | nil => by_cases h : name = n <;> simp [setAlias, h]
  | cons entry rest ih =>
    obtain ⟨m, v⟩ := entry
    unfold setAlias
    by_cases hm : m = name
    · subst hm
      by_cases h : m = n <;> simp [h]
    · rw [if_neg hm]
      split
      · by_cases h : name = n <;> simp [h]
      · by_cases hn : m = n
        · have : name ≠ n := fun e => hm (hn.trans e.symm)
          simp [hn, this]
        · simp [hn, ih]

/-- A configuration with another laid over it. -/
def merge (base overlay : Config) : Config :=
  ⟨overlay.defaults <|> base.defaults,
    overlay.aliases.foldl (fun table a => setAlias a.1 a.2 table) base.aliases⟩

/-! ## Lines -/

/-- What a line says. -/
inductive Line where
  | nothing
  | heading (name : String)
  | setting (key value : String)
deriving DecidableEq, Repr

/-- The lines of a text, without the line feeds between them. -/
def lines (text : String) : List (List Char) := text.toList.splitOn '\n'

/-- What stands between brackets at both ends, if they are there. -/
def bracketed? : List Char → Option (List Char)
  | '[' :: rest => if rest.getLast? = some ']' then some rest.dropLast else none
  | _ => none

/-- The text of some characters, without the blanks at its ends. -/
def trimmed (cs : List Char) : String := String.ofList (Blank.trimChars cs)

def Line.read (line : List Char) : Line :=
  let line := Blank.trimChars line
  match line with
  | [] | ';' :: _ | '#' :: _ => .nothing
  | _ =>
    match bracketed? line with
    | some name => .heading (trimmed name)
    | none =>
      match line.dropWhile (· ≠ '=') with
      | [] => .nothing
      | _ :: value => .setting (trimmed (line.takeWhile (· ≠ '='))) (trimmed value)

/-- A configuration being read, and the section that the lines belong to. -/
structure Reader where
  config : Config
  heading : String

def Reader.add (r : Reader) : Line → Reader
  | .nothing => r
  | .heading name => { r with heading := name }
  | .setting key value =>
    if r.heading = "" then
      if key = "defaults" then { r with config.defaults := some value } else r
    else if r.heading = "aliases" then
      { r with config.aliases := setAlias key value r.config.aliases }
    else r

def read (text : String) : Config :=
  ((lines text).foldl (fun (r : Reader) line => r.add (Line.read line)) ⟨empty, ""⟩).config

/-! ## Text -/

/-- What a configuration sets. -/
def active (c : Config) : String :=
  let defaults := match c.defaults with
    | some text => "\nActive defaults:\n  defaults = " ++ text ++ "\n"
    | none => ""
  let aliases :=
    if c.aliases.isEmpty then ""
    else
      "\nActive aliases:\n" ++
        String.join (c.aliases.map fun (name, value) => "  " ++ name ++ " = " ++ value ++ "\n")
  defaults ++ aliases

end Config
end RecordFlow
