import RecordFlow.Files.Tree

/-!
# Output — where the lines of a run go

A sink takes lines.  It may fail at a line or at the end; which lines and ends fail, and how, is
part of what the sink is.  Most sinks tell what is wrong.  Standard output does so unless its reader
has left: then the process ends, which is a failure without a text.

After the first failure an output is given up: it takes no line any more, and the fault is kept.
-/

namespace RecordFlow

/-! ## Sinks -/

/-- How a write or an end fails. -/
inductive Sink.Fault where
  | refused (text : String)
  /-- Nobody reads what is written, and the process ends. -/
  | brokenPipe
deriving DecidableEq, Repr, Inhabited

/-- What is said about a fault; a process that ends says nothing more. -/
def Sink.Fault.message : Sink.Fault → String
  | .refused text => text
  | .brokenPipe => ""

/-- What becomes of the lines: `writeFault? taken` is the fault of the write that follows the lines
`taken`, the last of which comes first. -/
structure Sink where
  writeFault? : List String → Option Sink.Fault
  flushFault? : Option Sink.Fault

namespace Sink

def reliable : Sink := ⟨fun _ => none, none⟩

/-- A sink that fails when it has taken `n` lines. -/
def failingBehind (n : Nat) (fault : Fault) : Sink :=
  ⟨fun taken => if taken.length < n then none else some fault, none⟩

def withRoom (n : Nat) (fault : String) : Sink :=
  .failingBehind n (.refused ("Output write failed: " ++ fault))

def unflushable (fault : String) : Sink :=
  ⟨fun _ => none, some (.refused ("Output flush failed: " ++ fault))⟩

/-- Standard output whose reader leaves behind `n` lines. -/
def pipe (n : Nat) : Sink := .failingBehind n .brokenPipe

end Sink

/-- An output in use: its sink until it is given up, the lines it took, the last one first, and the
first fault. -/
structure Output where
  sink : Option Sink
  taken : List String
  fault : Option Sink.Fault

namespace Output

/-- No output: lines go nowhere. -/
def none : Output := ⟨.none, [], .none⟩

def ofSink (sink : Sink) : Output := ⟨some sink, [], .none⟩

/-- The lines that an output took, in order. -/
def lines (o : Output) : List String := o.taken.reverse

/-- Takes a line, and tells whether that failed. -/
def write (o : Output) (line : String) : Output × Bool :=
  match o.sink with
  | .none => (o, false)
  | some sink =>
    match sink.writeFault? o.taken with
    | .none => ({ o with taken := line :: o.taken }, false)
    | some fault => ({ o with sink := .none, fault := o.fault <|> some fault }, true)

def flush (o : Output) : Output :=
  match o.sink with
  | .none => o
  | some sink => { o with fault := o.fault <|> sink.flushFault? }

/-! ### Laws -/

@[simp]
theorem lines_flush (o : Output) : o.flush.lines = o.lines := by
  unfold flush
  split <;> rfl

end Output

/-! ## Lines in a file -/

def unlines (lines : List String) : String := String.join (lines.map (· ++ "\n"))

/-- What may help when a file cannot be made. -/
def suggestion? (files : Files) (p : Path) : SystemError → Option String
  | .notFound => some "Parent directory does not exist, create it first"
  | .denied =>
    if p.parent?.any fun above => !files.contains above then
      some "Parent directory does not exist, create it first"
    else some "Check file permissions or choose a writable location"
  | .nulInName => some "Check for invalid characters in filename"
  | _ => none

/-- The text for a file that cannot be made. -/
def creationFault (files : Files) (p : Path) (e : SystemError) : String :=
  let base := "Cannot create output file '" ++ p.text ++ "': " ++ e.message
  match suggestion? files p e with
  | some text => base ++ "\nSuggestion: " ++ text
  | none => base

def createOutput (files : Files) (p : Path) : Except String Files :=
  match files.write p [] with
  | .ok after => .ok after
  | .error e => .error (creationFault files p e)

def writeLines (files : Files) (p : Path) (lines : List String) : Except String Files :=
  match files.write p (Utf8.encode (unlines lines)) with
  | .ok after => .ok after
  | .error e => .error (creationFault files p e)

end RecordFlow
