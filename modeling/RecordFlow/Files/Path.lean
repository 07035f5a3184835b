/-!
# Path — names of files

A path is the text in which it was given.  Its components are what stands between slashes; empty
components and single points say nothing, except for a point that the path starts with.  The file
name is the last component, unless that is a step up.
-/

namespace RecordFlow

/-- The text that names a file or a directory. -/
structure Path where
  text : String
deriving DecidableEq, Repr, Inhabited

namespace Path

def pieces (p : Path) : List (List Char) := p.text.toList.splitOn '/'

def isAbsolute (p : Path) : Bool := p.text.toList.head? == some '/'

/-- The components of a path that name something or step up. -/
def components (p : Path) : List String :=
  (p.pieces.filter fun piece => piece ≠ [] ∧ piece ≠ ['.']).map String.ofList

def fileName? (p : Path) : Option String :=
  match p.components.getLast? with
  | some name => if name = ".." then none else some name
  | none => none

/-- What follows the last point of the file name, if something precedes it. -/
def extension? (p : Path) : Option String :=
  match p.fileName? with
  | none => none
  | some name =>
    let backwards := name.toList.reverse
    let ext := (backwards.takeWhile (· ≠ '.')).reverse
    let stem := (backwards.dropWhile (· ≠ '.')).drop 1
    if stem.isEmpty then none else some (String.ofList ext)

/-- A path below another; an absolute one stands for itself. -/
def join (base : Path) (below : Path) : Path :=
  if below.isAbsolute || base.text.isEmpty then below
  else if base.text.toList.getLast? = some '/' then ⟨base.text ++ below.text⟩
  else ⟨base.text ++ "/" ++ below.text⟩

/-- The path without its last component, which is empty for a single name. -/
def parent? (p : Path) : Option Path :=
  -- of all points only one that the path starts with is a component
  let point := if p.pieces.head? = some ['.'] then ["."] else []
  match (point ++ p.components).reverse with
  | [] => none
  | _ :: above =>
    some ⟨(if p.isAbsolute then "/" else "") ++ String.intercalate "/" above.reverse⟩

/-- The directories that an absolute path of plain names leads through, itself first. -/
def ancestors (names : List String) : List Path :=
  let rec upward : List String → List Path
    | [] => [⟨"/"⟩]
    | name :: rest => ⟨"/" ++ String.intercalate "/" (name :: rest).reverse⟩ :: upward rest
  upward names.reverse

end Path
end RecordFlow
