import RecordFlow.Config.Basic
import RecordFlow.Files.Tree

/-!
# Lookup — where a configuration comes from

The configuration of a project is looked for in the working directory and upward from there; that of
the user has a place below the directory for configurations and one in the home directory, of which
the first that exists counts.  The project is laid over the user.  A file named by the user takes
the place of both.
-/

namespace RecordFlow

/-- What the surroundings say about the directories of the user. -/
structure Environment where
  home : Option String
  configHome : Option String
deriving DecidableEq, Repr, Inhabited

namespace Config

/-- The name of a configuration in a project or home directory. -/
def fileName : String := ".csvflowrc"

/-- The places of the configuration of the project, from the working directory upward. -/
def projectPaths (files : Files) : List Path :=
  (Path.ancestors files.cwd).map fun d => d.join ⟨fileName⟩

/-- The configuration of the project, in the nearest directory that has one. -/
def project? (files : Files) : Option Path := (projectPaths files).find? files.contains

def configDirectory (env : Environment) : Path :=
  match env.configHome, env.home with
  | some directory, _ => ⟨directory⟩
  | none, some home => Path.join ⟨home⟩ ⟨".config"⟩
  | none, none => ⟨".config"⟩

def userPaths (env : Environment) : List Path :=
  ((configDirectory env).join ⟨"csvflow"⟩).join ⟨"config.ini"⟩ ::
    match env.home with
    | some home => [Path.join ⟨home⟩ ⟨fileName⟩]
    | none => []

/-- All places, the project first. -/
def paths (files : Files) (env : Environment) : List Path :=
  (project? files).toList ++ userPaths env

def user? (files : Files) (env : Environment) : Option Path :=
  (userPaths env).find? files.contains

def ofPath (files : Files) (p : Path) : Except String Config :=
  match files.readText p with
  | .ok text => .ok (read text)
  | .error e => .error ("Failed to read config file: " ++ p.text ++ ": " ++ e.message)

def found (files : Files) (env : Environment) : Except String Config := do
  let user ← match user? files env with
    | some p => ofPath files p
    | none => pure empty
  match project? files with
  | some p => pure (user.merge (← ofPath files p))
  | none => pure user

/-- The configuration that counts; `custom` is the file that the user named. -/
def load (files : Files) (env : Environment) (custom : Option Path) : Except String Config :=
  match custom with
  | some p => ofPath files p
  | none => found files env

/-- The places that are looked at. -/
def places (files : Files) (env : Environment) (custom : Option Path) : List Path :=
  custom.toList ++ projectPaths files ++ userPaths env

/-! ## Description -/

/-- What is in force, and where it comes from. -/
def describeActive (files : Files) (env : Environment) : String :=
  match found files env with
  | .error message => "Error loading configuration: " ++ message ++ "\n"
  | .ok c =>
    let line (label : String) : Option Path → String
      | some p => "  " ++ label ++ ": " ++ p.text ++ "\n"
      | none => ""
    let sources := match project? files, user? files env with
      | none, none => "No configuration files found. Using defaults.\n"
      | project, user =>
        "Configuration loaded from:\n" ++ line "Project" project ++ line "User" user
    sources ++ c.active

/-- The places that are searched, in the order of their weight. -/
def describePlaces (files : Files) (env : Environment) : String :=
  let project := match project? files with
    | some p => p.text ++ " (found)"
    | none => fileName ++ " (searched up directory tree, not found)"
  let place (i : Nat) (p : Path) : String :=
    "  " ++ toString (i + 2) ++ ". User: " ++ p.text ++
      (if files.contains p then " (found)\n" else " (not found)\n")
  "\nConfiguration search locations (in precedence order):\n" ++
    "  1. Project: " ++ project ++ "\n" ++ String.join ((userPaths env).mapIdx place)

/-- A configuration to start from. -/
def sample : String :=
  "\nExample configuration file (" ++ fileName ++ "):\n\n" ++
    "# Arguments applied to every csvflow command\n" ++
    "defaults = --workers 8 --progress-interval 2s\n\n" ++
    "[aliases]\n" ++
    "strict = --strict --abort-on-error --error-threshold 0.01\n" ++
    "tsv = --delimiter '\\t'\n"

/-- All that can be said about the configuration. -/
def describe (files : Files) (env : Environment) : String :=
  "Configuration precedence: CLI > project " ++ fileName ++ " > user config > defaults\n\n" ++
    describeActive files env ++ describePlaces files env ++
    if (project? files).isNone && (user? files env).isNone then sample else ""

end Config
end RecordFlow
