import RecordFlow.LogFilter.Directive

/-!
# Log filter — which diagnostics are let through

A filter is a list of directives set apart by commas.  A bare level given for the program holds for
the program alone.

A filter is written with its most specific directives first; of two for the same thing the later
counts.

This is the filter that tracing-subscriber reads.  Which texts it refuses, among them the patterns
that need tables of Unicode properties, and the text that it shows for a filter are assumed.
-/

namespace RecordFlow

/-- Why there is no filter: the level given was refused, or the program came to an end. -/
inductive FilterFailure where
  | refused (level : String) (error : FilterError)
  | crashed (fault : Cut.Fault)
deriving DecidableEq, Repr

def FilterFailure.message : FilterFailure → String
  | .refused level error => "Invalid log level '" ++ level ++ "': " ++ error.message
  | .crashed fault => fault.message

namespace LogFilter

def readAll (text : String) : Except FilterError (List Directive) :=
  ((text.toList.splitOn ',').filter (!·.isEmpty)).mapM Directive.read

/-- The text of a filter.  Directives on targets and names of fields come first; those that look at
fields come once more with the others. -/
def textOf (directives : List Directive) : String :=
  let place (ds : List Directive) : List Directive := ds.foldl (fun acc d => d.insert acc) []
  let (dynamic, plain) := directives.partition Directive.isDynamic
  let static := plain ++ dynamic.filter Directive.isStatic
  String.intercalate "," ((place static ++ place dynamic).map Directive.text)

def parse (text : String) : Except FilterError String := (readAll text).map textOf

/-- The filter for the program alone that a bare level stands for. -/
def directiveFor (level : String) : String :=
  let lower := String.ofList (level.toList.map Char.toLower)
  if LogLevel.all.any fun l => l.label == lower then "csvflow=" ++ lower else level

def fallback : String := "csvflow=warn"

/-- The first readable one of the filters that the surroundings name. -/
def fromSurroundings : List (Option String) → Except FilterFailure String
  | [] => .ok fallback
  | none :: rest => fromSurroundings rest
  | some text :: rest =>
    match parse text with
    | .ok filter => .ok filter
    | .error (.cut fault) => .error (.crashed fault)
    | .error _ => fromSurroundings rest

/-- The filter in force: the level given, or what the surroundings name. -/
def build (level : Option String) (surroundings : List (Option String)) :
    Except FilterFailure String :=
  match level with
  | none => fromSurroundings surroundings
  | some level =>
    match parse (directiveFor level) with
    | .ok filter => .ok filter
    | .error (.cut fault) => .error (.crashed fault)
    | .error e => .error (.refused level e)

end LogFilter
end RecordFlow
