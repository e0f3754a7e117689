import TileAudit.Synthetic

/-!
# The library for raster files

Tagged image files are written and read by a library. It is handed the samples of a picture in
three bands of eight bits together with three tags, and gives back what it finds in a file: the
shape, the colours, the tags it can read as numbers, and the samples.
-/

namespace TileAudit
namespace GeoTiff

structure Picture where
  width : Nat
  height : Nat
  compression : Compression
  scale : List Float
  tiepoint : List Float
  keys : List UInt16
  samples : ByteArray

inductive Colours where
  | rgb8
  | rgba8
  /-- All other colours, by the name that the library has for them. -/
  | other (name : String)
deriving DecidableEq, Repr

inductive Pixels where
  | bytes (samples : ByteArray)
  /-- Samples of another form than bytes without a sign. -/
  | other

/-- What the library tells of a file that it can open. -/
structure Opened where
  width : Nat
  height : Nat
  colours : Except String Colours
  scale? : Option (List Float)
  tiepoint? : Option (List Float)
  keys? : Option (List UInt16)
  pixels : Except String Pixels

end GeoTiff

/-- A library for tagged image files; where it refuses, it tells why. -/
class TiffCodec where
  encode : GeoTiff.Picture → Except String ByteArray
  opened : ByteArray → Except String GeoTiff.Opened

end TileAudit
