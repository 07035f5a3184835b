import RecordFlow.Compression.Format
import RecordFlow.Compression.Gzip.Decoder
import RecordFlow.Compression.Zstandard.Decoder
import RecordFlow.Error
import RecordFlow.Files.Tree

/-!
# Input — the bytes of a source behind its compression

A source is opened by its path.  An archive, told by its extension, is refused before the file is
looked for; a file without bytes is refused before its format is told.  What is left is decoded,
and a fault of the decoding stands behind the data that comes before it.
-/

namespace RecordFlow
namespace Source

/-- The decoded bytes of a source; `lead` of them come at once, and `fault` follows the last. -/
structure Input where
  compression : Compression
  bytes : List UInt8
  lead : Nat
  fault : Option FlowError
deriving DecidableEq, Repr

/-- The bytes by which a format is told. -/
def headSize : Nat := 4

/-- The decoded bytes of a file, as the demand brings them in. -/
def Input.ofBytes (demand : Compression.Demand) (bytes : List UInt8) : Input :=
  let compressed (compression : Compression) (d : Compression.Decoded) : Input :=
    ⟨compression, d.data, d.lead, d.fault.map .io⟩
  match Compression.detect (bytes.take headSize) with
  | .plain => ⟨.plain, bytes, min headSize bytes.length, none⟩
  | .gzip => compressed .gzip (Gzip.decode demand bytes)
  | .zstd => compressed .zstd (Zstandard.decode demand bytes)

/-- The letters of an extension without their case. -/
def isArchive (p : Path) : Bool :=
  match p.extension? with
  | some ext => ext.toList.map Char.toLower == ['z', 'i', 'p']
  | none => false

def archiveError (p : Path) : FlowError :=
  .io ("ZIP archives are not supported, only gzip and zstd sources can be streamed " ++
    "(extract first: unzip " ++ p.text ++ ")")

/-- The error for a file that the system does not give out. -/
def systemError (e : SystemError) : FlowError := .ofSystem (e = .notFound) e.message

def Input.ofPath (demand : Compression.Demand) (files : Files) (p : Path) :
    Except FlowError Input :=
  if isArchive p then .error (archiveError p)
  else
    match files.read p with
    | .error e => .error (systemError e)
    | .ok [] => .error .emptyFile
    | .ok bytes => .ok (.ofBytes demand bytes)

end Source
end RecordFlow
