/-!
# Compression format — told by the first bytes of a source

A source whose first bytes are those of a gzip member or of a Zstandard frame is decompressed; any
other is read as it is.  The decoders behind the two formats are those of the libraries flate2 and
zstd.  Their formats are written out here (`Compression.Gzip`, `Compression.Zstandard`); that the
libraries give the same data and the same faults is assumed.
-/

namespace RecordFlow

/-- How the bytes of a source are compressed. -/
inductive Compression where
  | plain
  | gzip
  | zstd
deriving DecidableEq, Repr, Inhabited

namespace Compression

/-- The format a source starts with: gzip with the method deflate, a Zstandard frame, or neither. -/
def detect : List UInt8 → Compression
  | 0x1f :: 0x8b :: 0x08 :: _ => .gzip
  | 0x28 :: 0xb5 :: 0x2f :: 0xfd :: _ => .zstd
  | _ => .plain

def label : Compression → String
  | .plain => "Plain"
  | .gzip => "Gzip"
  | .zstd => "Zstd"

end Compression
end RecordFlow
