import RecordFlow.Files.Path
import RecordFlow.Text.Utf8

/-!
# Tree — the files that a run reads and writes

A directory is a list of named nodes.  A `Files` value is a whole tree together with the working
directory; paths are followed through it component by component.  Reading and writing answer with
the error that the system has for what stands in the way.

A file may have several names: a symbolic link leads along names of its own, and a further name of a
file stands for the place at which the file is kept.  Following a path ends at that place, so that
two paths lead to one file just if they end at the same names.  Files and directories say what the
process may do with them.

The tree knows of no other kind of file (devices, pipes), of no space that runs out, and of no
process beside this one.
-/

namespace RecordFlow

/-- What the process may do with a file or a directory. -/
structure Access where
  read : Bool
  write : Bool
  /-- Whether names may be looked up in a directory. -/
  search : Bool
deriving DecidableEq, Repr, Inhabited

def Access.full : Access := ⟨true, true, true⟩

inductive Node where
  | file (bytes : List UInt8) (access : Access := .full)
  | directory (entries : List (String × Node)) (access : Access := .full)
  /-- A symbolic link, along names from the root or from the directory that it stands in. -/
  | link (absolute : Bool) (target : List String)
  /-- A further name of the file at the end of some names. -/
  | further (place : List String)
deriving Inhabited

inductive SystemError where
  | notFound
  | notDirectory
  | isDirectory
  | nameTooLong
  | tooManyLinks
  | denied
  | nulInName
  | notText
deriving DecidableEq, Repr

def SystemError.message : SystemError → String
  | .notFound => "No such file or directory (os error 2)"
  | .notDirectory => "Not a directory (os error 20)"
  | .isDirectory => "Is a directory (os error 21)"
  | .nameTooLong => "File name too long (os error 36)"
  | .tooManyLinks => "Too many levels of symbolic links (os error 40)"
  | .denied => "Permission denied (os error 13)"
  | .nulInName => "file name contained an unexpected NUL byte"
  | .notText => "stream did not contain valid UTF-8"

/-- A tree of files, and the names that lead to the working directory. -/
structure Files where
  root : Node
  cwd : List String
deriving Inhabited

namespace Node

def entry? (name : String) : Node → Option Node
  | .directory entries _ => (entries.find? fun e => e.1 == name).map (·.2)
  | _ => none

def setEntry (name : String) (child : Node) : List (String × Node) → List (String × Node)
  | [] => [(name, child)]
  | (n, old) :: rest =>
    if n = name then (name, child) :: rest else (n, old) :: setEntry name child rest

/-- The node at the end of a list of names; links are not followed. -/
def at? : List String → Node → Option Node
  | [], node => some node
  | name :: rest, node => (node.entry? name).bind (at? rest)

/-- Puts a node at the end of a list of names, making the directories on the way. -/
def put (tree : Node) (names : List String) (child : Node) : Node :=
  match names, tree with
  | [], _ => child
  | name :: rest, .directory entries access =>
    let below := ((entries.find? fun e => e.1 == name).map (·.2)).getD (.directory [])
    .directory (setEntry name (put below rest child) entries) access
  | name :: rest, _ => .directory [(name, put (.directory []) rest child)]

def isDirectory : Node → Bool
  | .directory .. => true
  | _ => false

end Node

namespace Files

/-- The longest name of a file and the longest path, in bytes, and the most links on a path. -/
def nameLimit : Nat := 255
def pathLimit : Nat := 4095
def linkLimit : Nat := 40

/-- Where a path starts from. -/
def origin (files : Files) (p : Path) : List String := if p.isAbsolute then [] else files.cwd

/-- Follows components through directories, `here` being the names passed; `follow` goes on from
where a link leads.  Every node but the last has to be a directory. -/
def walkTo (follow : List String → List String → Except SystemError (List String)) (root : Node)
    (here : List String) : List String → Except SystemError (List String)
  | [] => .ok here
  | name :: rest =>
    match root.at? here with
    | some (.directory _ access) =>
      if !access.search then .error .denied
      else if name = ".." then walkTo follow root here.dropLast rest
      else if nameLimit < name.utf8ByteSize then .error .nameTooLong
      else
        match root.at? (here ++ [name]) with
        | some (.link absolute target) => follow (if absolute then [] else here) (target ++ rest)
        | some (.further place) => if rest.isEmpty then .ok place else .error .notDirectory
        | some _ => walkTo follow root (here ++ [name]) rest
        | none => if rest.isEmpty then .ok (here ++ [name]) else .error .notFound
    | some _ => .error .notDirectory
    | none => .error .notFound

/-- Follows components and as many links as are allowed. -/
def walk (root : Node) : Nat → List String → List String → Except SystemError (List String)
  | 0 => walkTo (fun _ _ => .error .tooManyLinks) root
  | links + 1 => walkTo (walk root links) root

/-- What makes a path unusable before it is followed. -/
def refuse? (p : Path) : Option SystemError :=
  if p.text.toList.contains (Char.ofNat 0) then some .nulInName
  else if p.text.isEmpty then some .notFound
  else if pathLimit < p.text.utf8ByteSize then some .nameTooLong
  else none

/-- Whether a path can only lead to a directory: it ends in a slash or a point. -/
def wantsDirectory (p : Path) : Bool :=
  match p.pieces.getLast? with
  | some [] | some ['.'] => true
  | _ => false

/-- The names under which the node that a path leads to is kept. -/
def resolve (files : Files) (p : Path) : Except SystemError (List String) :=
  match refuse? p with
  | some e => .error e
  | none => walk files.root linkLimit (files.origin p) p.components

def lookup (files : Files) (p : Path) : Except SystemError Node := do
  let names ← files.resolve p
  match files.root.at? names with
  | none => throw .notFound
  | some (.directory entries access) => pure (.directory entries access)
  | some (.file bytes access) =>
    if wantsDirectory p then throw .notDirectory else pure (.file bytes access)
  -- no link is kept where another one leads
  | some _ => throw .tooManyLinks

def contains (files : Files) (p : Path) : Bool :=
  match files.lookup p with
  | .ok _ => true
  | .error _ => false

def isDirectory (files : Files) (p : Path) : Bool :=
  match files.lookup p with
  | .ok node => node.isDirectory
  | .error _ => false

/-- The bytes of the file that a path leads to, whoever may read them. -/
def bytes? (files : Files) (p : Path) : Option (List UInt8) :=
  match files.lookup p with
  | .ok (.file bytes _) => some bytes
  | _ => none

def read (files : Files) (p : Path) : Except SystemError (List UInt8) := do
  match ← files.lookup p with
  | .file bytes access => if access.read then pure bytes else throw .denied
  | .directory _ access => throw (if access.read then .isDirectory else .denied)
  | _ => throw .tooManyLinks

def readText (files : Files) (p : Path) : Except SystemError String := do
  match Utf8.decode (← files.read p) with
  | .ok text => pure text
  | .error _ => throw .notText

/-- Makes a file with the given bytes, in place of those of the file that is there.  A new file
needs a directory that may be written to. -/
def write (files : Files) (p : Path) (bytes : List UInt8) : Except SystemError Files := do
  let names ← files.resolve p
  if wantsDirectory p then
    -- a point at the end names what is there, a slash at the end rules a file out
    if p.pieces.getLast? = some ['.'] then
      let _ ← files.lookup p
    throw .isDirectory
  let put (access : Access) : Files :=
    { files with root := files.root.put names (.file bytes access) }
  match files.root.at? names with
  | some (.file _ access) => if access.write then pure (put access) else throw .denied
  | some (.directory ..) => throw .isDirectory
  | some _ => throw .tooManyLinks
  | none =>
    match files.root.at? names.dropLast with
    | some (.directory _ access) => if access.write then pure (put .full) else throw .denied
    | _ => throw .notFound

end Files
end RecordFlow
