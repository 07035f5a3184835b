import RecordFlow.Command.Invocation
import Std.Time.DateTime.Timestamp

/-!
# Main — the command line

The outer layer of the program.  It looks at what surrounds the process, enters the files that a
command line can read into a tree, has the command line carried out on that tree, and puts what
comes of it into place: the files that changed, the texts on both output streams, and the status.
-/

open RecordFlow

namespace RecordFlow
namespace CommandLine

/-! ## Surroundings -/

/-- The number of processors, one where it cannot be found out. -/
def processors : IO Nat := do
  try
    let text ← IO.FS.readFile "/proc/cpuinfo"
    return max 1 ((text.splitOn "\n").countP fun line => line.startsWith "processor")
  catch _ => return 1

def now : IO Instant := do
  let time ← Std.Time.Timestamp.now
  let steady ← IO.monoNanosNow
  return ⟨⟨time.val.second.val, time.val.nano.val.toNat⟩, .ofNanos steady⟩

def surroundings : IO Command.Surroundings := do
  let start ← now
  return {
    environment := ⟨← IO.getEnv "HOME", ← IO.getEnv "XDG_CONFIG_HOME"⟩
    logFilters := [← IO.getEnv "CSVFLOW_LOG", ← IO.getEnv "RUST_LOG"]
    processors := ← processors
    terminal := ← (← IO.getStderr).isTty
    start
    finish := start }

/-! ## Files -/

def placeOf (names : List String) : String := "/" ++ String.intercalate "/" names

/-- Whether a call of the system does not fail. -/
def succeeds (call : IO Unit) : IO Bool := do
  try
    call
    return true
  catch _ => return false

/-- What stands at the end of a list of names, if anything does.  What may be done with a file is
found out by opening it. -/
def nodeAt? (names : List String) : IO (Option Node) := do
  let place := (← IO.currentDir) / placeOf names
  if ← place.isDir then return some (.directory [])
  if !(← place.pathExists) then return none
  let writable ← succeeds (discard (IO.FS.Handle.mk place .append))
  try
    return some (.file (← IO.FS.readBinFile place).toList ⟨true, writable, false⟩)
  catch _ => return some (.file [] ⟨false, writable, false⟩)

/-- The names under which the file at the end of some names is kept, which are the same but for
symbolic links. -/
def keptAt (names : List String) : IO (List String) := do
  try
    let place ← IO.FS.realPath (placeOf names)
    return Path.components ⟨place.toString⟩
  catch _ => return names

/-- The tree with every step of some names that is there. -/
def enterNames (root : Node) (names : List String) : IO Node := do
  let mut root := root
  for length in List.range (names.length + 1) do
    let here := names.take length
    if (root.at? here).isNone then
      if let some node ← nodeAt? here then
        root := root.put here node
  return root

/-- The tree with every step of a path that is there; a link leads to where its file is kept. -/
def enter (files : Files) (p : Path) : IO Files := do
  let mut root := files.root
  let mut here := files.origin p
  for name in p.components do
    here := if name = ".." then here.dropLast else here ++ [name]
    let kept ← keptAt here
    if kept ≠ here then
      root := root.put here (.link true kept)
    root ← enterNames root kept
    here := kept
  return { files with root }

/-- A tree of the working directory and nothing else. -/
def emptyTree : IO Files := do
  let cwd := Path.components ⟨(← IO.currentDir).toString⟩
  return ⟨(Node.directory []).put cwd (.directory []), cwd⟩

/-- Writes the files at the given paths that are not what they were. -/
def deliver (before after : Files) (paths : List Path) : IO Unit := do
  for p in paths do
    match after.read p with
    | .ok bytes =>
      if (before.read p).toOption != some bytes then
        IO.FS.writeBinFile ((← IO.currentDir) / p.text) ⟨bytes.toArray⟩
    | .error _ => pure ()

/-! ## Standard output -/

/-- Whether a call of the system finds that nobody reads what is written. -/
def findsNobody (call : IO Unit) : IO Bool := do
  try
    call
    return false
  catch
    | .resourceVanished .. => return true
    | e => throw e

/-- Puts the lines of a text out, and counts those that were taken if nobody reads the next. -/
def put (text : String) : IO (Option Nat) := do
  let stream ← IO.getStdout
  let pieces := text.splitOn "\n"
  let mut count := 0
  for line in pieces.dropLast do
    if ← findsNobody (do stream.putStr (line ++ "\n"); stream.flush) then return some count
    count := count + 1
  if ← findsNobody (do stream.putStr (pieces.getLastD ""); stream.flush) then return some count
  return none

end CommandLine
end RecordFlow

/-! ## The process -/

def main (args : List String) : IO UInt32 := do
  let words := "csvflow" :: args
  let s ← CommandLine.surroundings
  let files ← CommandLine.emptyTree
  let places := Config.places files s.environment (Command.customConfig? words)
  let files ← places.foldlM CommandLine.enter files
  let named := Command.namedPaths s files words
  let files ← named.foldlM CommandLine.enter files
  let s := { s with finish := ← CommandLine.now }
  let effect := Command.invoke s files words
  -- what a run comes to depends on how many of its lines are read
  let effect := match ← CommandLine.put effect.output with
    | some count => Command.invoke { s with standardOutput := .pipe count } files words
    | none => effect
  CommandLine.deliver files effect.files named
  IO.eprint effect.errors
  return effect.status.code.toUInt32
