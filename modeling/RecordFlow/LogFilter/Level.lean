import RecordFlow.Number.Decimal

/-!
# Level — how much of the diagnostics is let through

The levels are ordered from nothing to everything.
-/

namespace RecordFlow

inductive LogLevel where
  | off
  | error
  | warn
  | info
  | debug
  | trace
deriving DecidableEq, Repr, Inhabited

namespace LogLevel

def all : List LogLevel := [.off, .error, .warn, .info, .debug, .trace]

def label : LogLevel → String
  | .off => "off"
  | .error => "error"
  | .warn => "warn"
  | .info => "info"
  | .debug => "debug"
  | .trace => "trace"

def lower (cs : List Char) : String := String.ofList (cs.map Char.toLower)

/-- The level with a name, in any case. -/
def named? (cs : List Char) : Option LogLevel := all.find? fun l => l.label == lower cs

/-- The level at a place in the order of the levels. -/
def placed? (cs : List Char) : Option LogLevel :=
  match Decimal.readNatural (Nat.pow 2 64 - 1) (String.ofList cs) with
  | .ok n => all[n]?
  | .error _ => none

/-- Reads a level: its place in the order of the levels, or its name; nothing means errors. -/
def read? (cs : List Char) : Option LogLevel :=
  match placed? cs with
  | some level => some level
  | none => if cs.isEmpty then some .error else named? cs

end LogLevel
end RecordFlow
