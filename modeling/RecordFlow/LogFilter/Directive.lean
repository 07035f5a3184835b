import RecordFlow.LogFilter.Field
import RecordFlow.LogFilter.Level
import RecordFlow.Text.Cut

/-!
# Directive — what is let through of one target, one span, or both

A directive names a target, a span in brackets with fields in braces, or both, and behind an equals
sign a level.  A level alone holds for every target, and without a level everything is let through.

Reading goes through the characters without the blanks at both ends, while the parts are cut at the
same offsets from the whole text: a directive with blanks in front has its parts shifted.
-/

namespace RecordFlow

structure Directive where
  target : Option String
  span : Option String
  fields : List FieldMatch
  level : LogLevel
deriving DecidableEq, Repr

/-- Why a directive cannot be read; a cut inside a character ends the program. -/
inductive FilterError where
  | level
  | directive
  | field (fault : Pattern.Fault)
  | cut (fault : Cut.Fault)
deriving DecidableEq, Repr

def FilterError.message : FilterError → String
  | .level =>
    "error parsing level filter: expected one of \"off\", \"error\", \"warn\", \"info\", " ++
      "\"debug\", \"trace\", or a number 0-5"
  | .directive => "invalid filter directive"
  | .field fault => "invalid field filter: " ++ fault.message
  | .cut fault => fault.message

namespace Directive

/-! ## Reading -/

/-- The part of a directive that is being read; parts are known by the offset of their start. -/
inductive Place where
  | start
  /-- A target, or a level alone. -/
  | subject
  | span (start : Nat)
  | field (start : Nat)
  /-- Behind the fields. -/
  | fields
  /-- Behind the span. -/
  | tail
  | level (start : Nat)
deriving DecidableEq, Repr

/-- Whether a directive may start with a character. -/
def startsSubject (c : Char) : Bool :=
  c == '-' || c == ':' || c == '_' || Letter.isAlphanumeric c

/-- The part of a text between two offsets. -/
def part (whole : List Char) (start finish : Nat) : Except FilterError String :=
  match Cut.between start finish whole with
  | .ok cs => .ok (String.ofList cs)
  | .error fault => .error (.cut fault)

/-- The field between two offsets, which must not be empty. -/
def fieldAt (whole : List Char) (start finish : Nat) : Except FilterError FieldMatch := do
  let text ← part whole start finish
  if text.isEmpty then throw .directive
  match FieldMatch.read text.toList with
  | .ok field => pure field
  | .error fault => throw (.field fault)

/-- A span without a name can be asked for by its fields only. -/
def spanName (name : String) : Option String := if name.isEmpty then none else some name

/-- Reads the character `c` at the offset `i`. -/
def readChar (whole : List Char) (i : Nat) (c : Char) (d : Directive) :
    Place → Except FilterError (Directive × Place)
  | .start =>
    if c = '[' then pure (d, .span (i + 1))
    else if startsSubject c then pure (d, .subject)
    else throw .directive
  | .subject =>
    if c = '=' then do
      pure ({ d with target := some (← part whole 0 i) }, .level (i + 1))
    else if c = '[' then do
      pure ({ d with target := some (← part whole 0 i) }, .span (i + 1))
    else pure (d, .subject)
  | .span start =>
    if c = ']' then do
      pure ({ d with span := some (← part whole start i) }, .tail)
    else if c = '\x7b' then do
      pure ({ d with span := spanName (← part whole start i) }, .field (i + 1))
    else pure (d, .span start)
  | .field start =>
    if c = '\x7d' then do
      pure ({ d with fields := d.fields ++ [← fieldAt whole start i] }, .fields)
    else if c = ',' then do
      pure ({ d with fields := d.fields ++ [← fieldAt whole start i] }, .field (i + 1))
    else pure (d, .field start)
  | .fields => if c = ']' then pure (d, .tail) else throw .directive
  | .tail => if c = '=' then pure (d, .level (i + 1)) else throw .directive
  | .level start => pure (d, .level start)

def readChars (whole : List Char) :
    Nat → Directive → Place → List Char → Except FilterError (Directive × Place)
  | _, d, place, [] => .ok (d, place)
  | i, d, place, c :: cs => do
    let (d, place) ← readChar whole i c d place
    readChars whole (i + c.utf8Size) d place cs

def ofSubject (whole : List Char) : Directive :=
  match LogLevel.read? whole with
  | some level => ⟨none, none, [], level⟩
  | none => ⟨some (String.ofList whole), none, [], .trace⟩

/-- The level from an offset on; nothing means everything. -/
def levelFrom (whole : List Char) (start : Nat) : Except FilterError LogLevel :=
  match Cut.suffixFrom start whole with
  | .error fault => .error (.cut fault)
  | .ok [] => .ok .trace
  | .ok cs =>
    match LogLevel.read? cs with
    | some level => .ok level
    | none => .error .level

def read (whole : List Char) : Except FilterError Directive := do
  let (d, place) ← readChars whole 0 ⟨none, none, [], .trace⟩ .start (Blank.trimChars whole)
  match place with
  | .subject => pure (ofSubject whole)
  | .level start => pure { d with level := ← levelFrom whole start }
  | .tail => pure d
  | _ => throw .directive

/-! ## Writing -/

def isDynamic (d : Directive) : Bool := d.span.isSome || !d.fields.isEmpty

def isStatic (d : Directive) : Bool := d.span.isNone && d.fields.all (·.value.isNone)

def text (d : Directive) : String :=
  let fields :=
    if d.fields.isEmpty then ""
    else "\x7b" ++ String.intercalate "," (d.fields.map FieldMatch.text) ++ "\x7d"
  let span := if d.isDynamic then "[" ++ d.span.getD "" ++ fields ++ "]" else ""
  let subject := d.target.getD "" ++ span
  if d.target.isNone && !d.isDynamic then d.level.label else subject ++ "=" ++ d.level.label

/-! ## Order -/

/-- How specific a directive is: the size of the target counts most, then whether there is a span,
then the number of fields. -/
def specificity (a b : Directive) : Ordering :=
  ((compare (a.target.map String.utf8ByteSize) (b.target.map String.utf8ByteSize)).then
    (compare a.span.isSome b.span.isSome)).then (compare a.fields.length b.fields.length)

/-- The order of what two directives are about; the more specific one is greater, and the words
decide between those that are equally specific.  The levels do not count. -/
def order (a b : Directive) : Ordering :=
  (((specificity a b).then (compare a.target b.target)).then (compare a.span b.span)).then
    (compare a.fields b.fields)

/-- Puts a directive in its place, the greatest being the first; one about the same thing gives
way. -/
def insert (d : Directive) : List Directive → List Directive
  | [] => [d]
  | e :: rest =>
    match d.order e with
    | .eq => d :: rest
    | .gt => d :: e :: rest
    | .lt => e :: insert d rest

end Directive
end RecordFlow
