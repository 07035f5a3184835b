import RecordFlow.Collector
import RecordFlow.Files.Tree
import RecordFlow.Json.Printer
import RecordFlow.Summary

/-!
# Report — collected errors as text and as JSON

* `summary` counts the errors,
* `detailed` lists the first of them,
* `top` ranks the messages by how often they occur, the first seen first among equals,
* `Entry.line` is an error in short form,
* `exported` is the file with all entries.
-/

namespace RecordFlow

/-- The short form of an error: where it occurred, its category and its message. -/
def Entry.line (e : Entry) : String :=
  let shown := "[" ++ e.category.label ++ "] " ++ e.error.message
  match e.record with
  | some r => r.source ++ ":" ++ toString r.line ++ " " ++ shown
  | none => shown

namespace Report

/-! ## Text -/

def heading (title : String) : String := "\n" ++ rule ++ "\n" ++ title ++ "\n" ++ rule ++ "\n"

def summary (c : Collector) : String :=
  heading "Error Summary" ++ c.counts.text ++ rule ++ "\n"

/-- What reports say when there is nothing to list. -/
def nothing : String := "No errors to report.\n"

/-- The long form of an error under its number. -/
def detail (number : Nat) (e : Entry) : String :=
  let place := match e.record with
    | some r => "  File:      " ++ r.source ++ "\n  Line:      " ++ toString r.line ++ "\n"
    | none => ""
  "\nError #" ++ toString number ++ ":\n" ++
    "  Time:      " ++ e.time.withOffset ++ "\n" ++
    "  Category:  " ++ e.category.label ++ "\n" ++
    "  Severity:  " ++ e.severity.label ++ "\n" ++
    "  Retryable: " ++ (if e.retryable then "true" else "false") ++ "\n" ++
    place ++
    "  Error:     " ++ e.error.message ++ "\n"

/-- Up to `most` errors in order; zero stands for all. -/
def detailed (c : Collector) (most : Nat) : String :=
  if c.entries.isEmpty then nothing
  else
    let shown := if most = 0 then c.count else min most c.count
    let details := (c.entries.take shown).mapIdx fun i e => detail (i + 1) e
    let remaining := c.count - shown
    heading "Detailed Error Report" ++ String.join details ++
      (if 0 < remaining then s!"\n... and {remaining} more errors\n" else "") ++ rule ++ "\n"

/-- The errors with one message: how many there are, and the category of the first. -/
structure Group where
  message : String
  count : Nat
  category : Category
deriving DecidableEq, Repr

/-- Adds an entry to the group of its message. -/
def addToGroup (e : Entry) : List Group → List Group
  | [] => [⟨e.error.message, 1, e.category⟩]
  | g :: rest =>
    if g.message = e.error.message then { g with count := g.count + 1 } :: rest
    else g :: addToGroup e rest

/-- The messages of entries in the order in which they were first seen. -/
def groups (entries : List Entry) : List Group :=
  entries.foldl (fun gs e => addToGroup e gs) []

def ranked (entries : List Entry) : List Group :=
  (groups entries).mergeSort fun a b => b.count ≤ a.count

/-- The most characters of a message in the ranking. -/
def messageLimit : Nat := 100

def shorten (message : String) : String :=
  if message.length ≤ messageLimit then message
  else String.ofList (message.toList.take messageLimit) ++ "..."

def groupText (number : Nat) (g : Group) : String :=
  let count := g.count
  s!"\n{number}. ({count} occurrences)\n" ++
    "   Category: " ++ g.category.label ++ "\n" ++
    "   Message:  " ++ shorten g.message ++ "\n"

/-- The `most` most frequent messages. -/
def top (c : Collector) (most : Nat) : String :=
  if c.entries.isEmpty then nothing
  else
    heading s!"Top {most} Most Common Errors" ++
      String.join (((ranked c.entries).take most).mapIdx fun i g => groupText (i + 1) g) ++
      rule ++ "\n"

/-! ## Export -/

def entryJson (e : Entry) : Json :=
  let place := match e.record with
    | some r => [("file", .string r.source), ("line", .natural r.line)]
    | none => []
  .object
    ([("timestamp", .string e.time.withOffset), ("category", .string e.category.label),
      ("severity", .string e.severity.label), ("retryable", .bool e.retryable),
      ("message", .string e.error.message)] ++ place)

def json (c : Collector) : Json :=
  .object [("summary", c.counts.toJson), ("errors", .array (c.entries.map entryJson))]

def exported (c : Collector) : String := (json c).pretty ++ "\n"

def write (c : Collector) (files : Files) (p : Path) : Except String Files :=
  match files.write p (Utf8.encode (exported c)) with
  | .ok files => .ok files
  | .error e =>
    .error ("Failed to create error report '" ++ p.text ++ "': " ++ e.message)

end Report
end RecordFlow
