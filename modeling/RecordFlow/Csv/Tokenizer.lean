import RecordFlow.Error
import RecordFlow.Text.Utf8

/-!
# Csv tokenizer — rows of fields from bytes

A row ends at a line feed or a carriage return; a line feed after a carriage return and the empty
lines before a row belong to no row.  A field that begins with a quotation mark runs to the next
single one and may hold delimiters and line ends; two quotation marks stand for one.  Rows may have
any number of fields.

The position of a row is taken where the previous row ended: its line counts the line feeds before
that point, so that empty lines and the line feed of a carriage return are counted with the row
that follows.

These are the rules of the csv reader with its defaults for quotes and line ends and with rows of
any length, and its count of lines.  They are assumed of that library, with what it makes of a byte
order mark that comes in a portion of its own.
-/

namespace RecordFlow
namespace Csv

/-- Where the reading of a row began. -/
structure Position where
  line : Nat
  byte : Nat
  index : Nat
deriving DecidableEq, Repr

/-- A row before its fields are taken as text. -/
structure RawRow where
  fields : List (List UInt8)
  position : Position
deriving DecidableEq, Repr

/-- A row of text, and the line at which its reading began. -/
structure Row where
  fields : List String
  line : Nat
deriving DecidableEq, Repr

/-- Where the scanner is in a row. -/
inductive Mode where
  | rowStart
  | afterCarriageReturn
  | fieldStart
  | inField
  | inQuotes
  /-- Behind a quotation mark that ends the quotes or begins a pair. -/
  | afterQuote
deriving DecidableEq, Repr

/-- The row being read, with its finished fields and the current one both reversed. -/
structure Scanner where
  mode : Mode
  field : List UInt8
  fields : List (List UInt8)
  line : Nat
  byte : Nat
  start : Position

def lineFeed : UInt8 := 10
def carriageReturn : UInt8 := 13
def quotationMark : UInt8 := 34

def isTerminator (b : UInt8) : Bool := b == lineFeed || b == carriageReturn

namespace Scanner

/-- A scanner at the start of the text, behind `skipped` bytes. -/
def initial (skipped : Nat) : Scanner :=
  ⟨.rowStart, [], [], 1, skipped, ⟨1, 0, 0⟩⟩

def push (s : Scanner) (b : UInt8) (mode : Mode) : Scanner :=
  { s with field := b :: s.field, mode }

def endField (s : Scanner) : Scanner :=
  { s with field := [], fields := s.field.reverse :: s.fields, mode := .fieldStart }

def row (s : Scanner) : RawRow :=
  ⟨(s.field.reverse :: s.fields).reverse, s.start⟩

/-- Ends the row with the terminator `b`, which has been counted. -/
def endRow (s : Scanner) (b : UInt8) : Scanner × Option RawRow :=
  ({ s with
      mode := if b = carriageReturn then .afterCarriageReturn else .rowStart
      field := [], fields := [], start := ⟨s.line, s.byte, s.start.index + 1⟩ },
    some s.row)

/-- A byte that is neither quoted nor a quotation mark in a place of meaning. -/
def unquoted (s : Scanner) (delimiter b : UInt8) : Scanner × Option RawRow :=
  if b = delimiter then (s.endField, none)
  else if isTerminator b then s.endRow b
  else (s.push b .inField, none)

/-- The first byte of a field. -/
def fieldStart (s : Scanner) (delimiter b : UInt8) : Scanner × Option RawRow :=
  if b = quotationMark then ({ s with mode := .inQuotes }, none)
  else s.unquoted delimiter b

def count (s : Scanner) (b : UInt8) : Scanner :=
  { s with byte := s.byte + 1, line := if b = lineFeed then s.line + 1 else s.line }

def step (delimiter : UInt8) (s : Scanner) (b : UInt8) : Scanner × Option RawRow :=
  let s := s.count b
  match s.mode with
  | .rowStart =>
    if isTerminator b then ({ s with mode := .rowStart }, none) else s.fieldStart delimiter b
  | .afterCarriageReturn =>
    if isTerminator b then ({ s with mode := .rowStart }, none) else s.fieldStart delimiter b
  | .fieldStart => s.fieldStart delimiter b
  | .inField => s.unquoted delimiter b
  | .inQuotes =>
    if b = quotationMark then ({ s with mode := .afterQuote }, none) else (s.push b .inQuotes, none)
  | .afterQuote =>
    if b = quotationMark then (s.push b .inQuotes, none) else s.unquoted delimiter b

/-- The row that the end of the text ends, if one has begun. -/
def finish? (s : Scanner) : Option RawRow :=
  match s.mode with
  | .rowStart | .afterCarriageReturn => none
  | _ => some s.row

/-- Reads bytes; `acc` holds the rows found, the last first. -/
def run (delimiter : UInt8) (s : Scanner) (acc : List RawRow) :
    List UInt8 → Scanner × List RawRow
  | [] => (s, acc)
  | b :: rest =>
    match s.step delimiter b with
    | (s, some row) => run delimiter s (row :: acc) rest
    | (s, none) => run delimiter s acc rest

end Scanner

/-! ## Text -/

/-- The fields of a row as text, or the index of the first field that is none and the count of its
good bytes. -/
def decodeFields (index : Nat) : List (List UInt8) → Except (Nat × Nat) (List String)
  | [] => .ok []
  | field :: rest =>
    match Utf8.decode field with
    | .error good => .error (index, good)
    | .ok text => (decodeFields (index + 1) rest).map (text :: ·)

/-- The error of a row with a field that is no text. -/
def notText (p : Position) (field good : Nat) : FlowError :=
  let record := p.index
  let line := p.line
  let byte := p.byte
  .invalidCsv
    (s!"CSV parse error: record {record} (line {line}, field: {field}, byte: {byte}): " ++
      s!"invalid utf-8: invalid UTF-8 in field {field} near byte index {good}")

def decodeRow (raw : RawRow) : Except FlowError Row :=
  match decodeFields 0 raw.fields with
  | .ok fields => .ok ⟨fields, raw.position.line⟩
  | .error (field, good) => .error (notText raw.position field good)

/-! ## Tokens -/

/-- The rows of a text up to the first fault, and that fault. -/
structure Tokens where
  rows : List Row
  fault : Option FlowError
deriving DecidableEq, Repr

/-- The rows up to the first that is no text. -/
def decodeRows (fault : Option FlowError) : List RawRow → Tokens
  | [] => ⟨[], fault⟩
  | raw :: rest =>
    match decodeRow raw with
    | .error e => ⟨[], some e⟩
    | .ok row =>
      let tokens := decodeRows fault rest
      { tokens with rows := row :: tokens.rows }

/-- The mark that may stand before a text to tell its byte order. -/
def byteOrderMark : List UInt8 := [0xef, 0xbb, 0xbf]

/-- Whether a text begins with a byte order mark; `lead` bytes of it come at once, and the mark
counts as one only if it is among them. -/
def isMarked (lead : Nat) (bytes : List UInt8) : Bool :=
  byteOrderMark.isPrefixOf bytes && 3 ≤ lead

/-- Whether just a byte order mark comes at once.  Nothing is left of it then, which is taken for
the end of the text. -/
def stopsAtMark (lead : Nat) (bytes : List UInt8) : Bool := isMarked lead bytes && lead = 3

/-- The rows of a text, of which `lead` bytes come at once.  A text that breaks off with a fault has
no last row without its end. -/
def tokenize (delimiter : UInt8) (lead : Nat) (bytes : List UInt8) (fault : Option FlowError) :
    Tokens :=
  if stopsAtMark lead bytes then ⟨[], none⟩
  else
    let skipped := if isMarked lead bytes then 3 else 0
    let (scanner, rows) := (Scanner.initial skipped).run delimiter [] (bytes.drop skipped)
    let rows := match fault, scanner.finish? with
      | none, some row => row :: rows
      | _, _ => rows
    decodeRows fault rows.reverse

end Csv
end RecordFlow
