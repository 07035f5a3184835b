import RecordFlow.Config.Basic
import RecordFlow.Config.Words

/-!
# Expansion — arguments in place of aliases

An alias stands for the words of its value.  In a list of arguments a flag for aliases and the name
after it are replaced by the expansion of that name, in which aliases are replaced in turn.  An
alias must not come up inside its own expansion, and expansions do not go deeper than `depthLimit`.
-/

namespace RecordFlow
namespace Config

/-- Why arguments cannot be expanded. -/
inductive ExpansionError where
  | tooDeep (depth : Nat)
  | circular (name : String)
  | unknown (name : String)
  | unreadable (name : String)
  | unreadableDefaults
deriving DecidableEq, Repr

def ExpansionError.message : ExpansionError → String
  | .tooDeep depth => s!"Alias chain too deep: {depth} levels"
  | .circular name => "Circular dependency detected in alias: " ++ name
  | .unknown name => "Unknown alias: " ++ name
  | .unreadable name =>
    "Invalid alias '" ++ name ++ "': failed to parse arguments: " ++ Words.splitFault
  | .unreadableDefaults => "Invalid defaults: failed to parse arguments: " ++ Words.splitFault

def depthLimit : Nat := 10

def isAliasFlag (arg : String) : Bool := arg == "-a" || arg == "--alias"

/-- Arguments, and the aliases under expansion around them. -/
abbrev Expansion := Except ExpansionError (List String × List String)

/-- Replaces every flag and the name after it, from left to right. -/
def expandWords (resolve : String → List String → Expansion) (seen : List String) :
    List String → Expansion
  | [] => .ok ([], seen)
  | [arg] => .ok ([arg], seen)
  | arg :: next :: rest =>
    if isAliasFlag arg then do
      let (own, seen) ← resolve next seen
      let (others, seen) ← expandWords resolve seen rest
      pure (own ++ others, seen)
    else do
      let (others, seen) ← expandWords resolve seen (next :: rest)
      pure (arg :: others, seen)

/-- The expansion of an alias at a depth, with a number of levels left below it. -/
def resolveWithin (c : Config) : (levels depth : Nat) → String → List String → Expansion
  | 0, depth, _, _ => .error (.tooDeep depth)
  | levels + 1, depth, name, seen =>
    if name ∈ seen then .error (.circular name)
    else
      match c.alias? name with
      | none => .error (.unknown name)
      | some value =>
        match Words.split? value with
        | none => .error (.unreadable name)
        | some words => do
          let (expanded, seen) ←
            expandWords (resolveWithin c levels (depth + 1)) (name :: seen) words
          pure (expanded, seen.erase name)

def resolve (c : Config) (name : String) (seen : List String) (depth : Nat) : Expansion :=
  c.resolveWithin (depthLimit + 1 - depth) depth name seen

def defaultWords (c : Config) : Except ExpansionError (List String) :=
  match c.defaults with
  | none => .ok []
  | some text =>
    match Words.split? text with
    | none => .error .unreadableDefaults
    | some words => .ok words

/-- Puts the default arguments behind the program name, and expands everything. -/
def process (c : Config) (args : List String) : Except ExpansionError (List String) := do
  let defaults ← c.defaultWords
  let all := args.take 1 ++ defaults ++ args.drop 1
  let (expanded, _) ← expandWords (fun name seen => c.resolve name seen 0) [] all
  pure expanded

end Config
end RecordFlow
