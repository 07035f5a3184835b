import RecordFlow.Command.Arguments

/-!
# Parser — the grammar of a command line

Words are taken from left to right.  A long option may have its value behind an equals sign;
letters may stand together behind one hyphen, and the rest of the word behind the letter of a
setting is its value.  Any other word is the value of the setting before it, if that still needs
one, or the path of a source; behind two hyphens every word is a path.

The value of a setting is looked at when the next option begins, or at the end; an argument that is
no option is reported at once.  What goes together is checked when everything has been read.

The grammar is the one that clap derives from the declared arguments: their names, which of them
take a value, the ranges of those values and which exclude each other.  The order in which clap
looks at the words and reports what is wrong with them is assumed; the wording of its usage errors
is left out.
-/

namespace RecordFlow
namespace Command

/-- What has been read but not looked at. -/
inductive Pending where
  | nothing
  | files (texts : List String)
  | setting (setting : Setting) (value : Option String)
deriving DecidableEq, Repr

/-- A parser between two words. -/
structure Parser where
  arguments : Arguments
  pending : Pending
  /-- Whether every further word is a path. -/
  trailing : Bool
deriving DecidableEq, Repr

namespace Parser

def initial : Parser := ⟨.usual, .nothing, false⟩

def resolve (p : Parser) : Except UsageError Parser :=
  match p.pending with
  | .nothing => .ok p
  | .files texts => do
    pure { p with arguments := ← texts.foldlM Arguments.addFile p.arguments, pending := .nothing }
  | .setting _ none => .error .invalidValue
  | .setting setting (some text) => do
    pure { p with arguments := ← p.arguments.set setting text, pending := .nothing }

def raise (p : Parser) (flag : Flag) : Except UsageError Parser := do
  let p ← p.resolve
  pure { p with arguments := ← p.arguments.raise flag }

/-- A setting with its value, which is looked at now. -/
def assign (p : Parser) (setting : Setting) (text : String) : Except UsageError Parser := do
  let p ← p.resolve
  pure { p with arguments := ← p.arguments.set setting text }

/-- A setting that still needs its value. -/
def await (p : Parser) (setting : Setting) : Except UsageError Parser := do
  let p ← p.resolve
  pure { p with pending := .setting setting none }

def positional (p : Parser) (text : String) : Except UsageError Parser :=
  match p.pending with
  | .files texts => .ok { p with pending := .files (texts ++ [text]) }
  | _ => do
    let p ← p.resolve
    pure { p with pending := .files [text] }

/-- A word behind two hyphens. -/
def long (p : Parser) (cs : List Char) : Except UsageError Parser :=
  let name := String.ofList (cs.takeWhile (· ≠ '='))
  let value := match cs.dropWhile (· ≠ '=') with
    | [] => none
    | _ :: rest => some (String.ofList rest)
  match longKey? name, value with
  | none, _ => .error .unknownArgument
  | some (.flag flag), none => p.raise flag
  | some (.flag _), some _ => .error .unneededValue
  | some (.setting setting), none => p.await setting
  | some (.setting setting), some text => p.assign setting text

/-- What stands behind the letter of a setting, without an equals sign before it. -/
def attached (cs : List Char) : List Char :=
  match cs with
  | '=' :: rest => rest
  | cs => cs

/-- Letters behind a hyphen. -/
def short (p : Parser) : List Char → Except UsageError Parser
  | [] => .ok p
  | c :: rest =>
    match letterKey? c with
    | none => .error .unknownArgument
    | some (.flag flag) => do
      let p ← p.raise flag
      short p rest
    | some (.setting setting) =>
      if rest.isEmpty then p.await setting
      else p.assign setting (String.ofList (attached rest))

/-- A word that is no option. -/
def plain (p : Parser) (text : String) : Except UsageError Parser :=
  match p.pending with
  | .setting setting none => .ok { p with pending := .setting setting (some text) }
  | _ => p.positional text

def word (p : Parser) (text : String) : Except UsageError Parser :=
  if p.trailing then p.positional text
  else
    match text.toList with
    | ['-', '-'] => .ok { p with trailing := true }
    | '-' :: '-' :: rest => p.long rest
    | '-' :: c :: rest => p.short (c :: rest)
    | _ => p.plain text

end Parser

/-- Checks what goes together: some options exclude others, and without sources there has to be
something else to do. -/
def Arguments.check (a : Arguments) : Except UsageError Arguments :=
  if (a.quiet && a.verbose) || (a.noOutput && a.output.isSome) then .error .conflict
  else if a.files.isEmpty && !a.showConfig && a.completions.isNone then .error .missingFiles
  else .ok a

/-- Reads a command line, the first word of which is the name of the program. -/
def parse (words : List String) : Except UsageError Arguments := do
  let p ← (words.drop 1).foldlM Parser.word .initial
  let p ← p.resolve
  p.arguments.check

end Command
end RecordFlow
