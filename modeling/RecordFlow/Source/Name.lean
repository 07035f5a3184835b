import RecordFlow.Files.Path

/-!
# Source names — what records and messages call a source

A source goes by its file name, or by its whole path when it has none or shares it with another
source of the same list.
-/

namespace RecordFlow
namespace Source

/-- The file name of a path, or the path itself. -/
def shortName (p : Path) : String := p.fileName?.getD p.text

def names (paths : List Path) : List String :=
  let short := paths.map shortName
  paths.map fun p => if 1 < short.count (shortName p) then p.text else shortName p

end Source
end RecordFlow
