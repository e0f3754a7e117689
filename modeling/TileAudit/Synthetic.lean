import TileAudit.Fault
import TileAudit.Raster.Basic
import TileAudit.Tile.Basic

/-!
# Self-describing rasters

A raster every pixel of which tells its own place: the red sample is the row, the
green sample the column, and the blue sample their sum, each modulo 256. A shifted,
flipped or band-swapped tile can be seen for what it is without the raster at hand.
-/

namespace TileAudit

def defaultExtentSize : Float := 1000000.0

def defaultEpsg : UInt16 := 3857

inductive Compression where
  | none
  | lzw
  | deflate
deriving DecidableEq, Repr

/-- The colour of the pixel in a row and a column. The sum is taken in machine words,
which does not show modulo 256. -/
def encodePixel (row col : Nat) : Colour where
  red := UInt8.ofNat row
  green := UInt8.ofNat col
  blue := UInt8.ofNat (row + col)

structure SyntheticRaster where
  width : Nat
  height : Nat
  extent : BoundingBox := BoundingBox.centered Point.origin defaultExtentSize
  epsg : UInt16 := defaultEpsg
  compression : Compression := .none

namespace SyntheticRaster

def transform (spec : SyntheticRaster) : Except RasterFault GeoTransform :=
  GeoTransform.northUp spec.extent spec.width spec.height

def samples (spec : SyntheticRaster) : Samples :=
  Samples.ofFn spec.height spec.width tileBands fun row col band => (encodePixel row col).band band

/-- The bytes of the samples, one pixel after the other; none when they cannot be addressed. -/
def pixels? (spec : SyntheticRaster) : Option ByteArray :=
  if Samples.isAddressable spec.height spec.width tileBands then some spec.samples.bytes else none

def rasterOf (spec : SyntheticRaster) (transform : GeoTransform) (pixels : ByteArray) :
    Except RasterFault Raster := do
  let samples ← Samples.ofBytes spec.height spec.width tileBands pixels
  Raster.ofSamples samples transform spec.epsg

def toRaster (spec : SyntheticRaster) : Except Fault Raster := do
  let transform ← spec.transform.mapError .invalidRaster
  match spec.pixels? with
  | none => .error .brokenOff
  | some pixels => (spec.rasterOf transform pixels).mapError .invalidRaster

end SyntheticRaster
end TileAudit
