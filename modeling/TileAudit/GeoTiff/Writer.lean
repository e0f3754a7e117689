import TileAudit.GeoTiff.Codec
import TileAudit.GeoTiff.Keys

/-!
# Writing raster files

A self-describing raster as a tagged image file with its georeference. The description
is checked before anything is written.
-/

namespace TileAudit
namespace GeoTiff

def maxDimension : Nat := Numeral.limit32

def pictureOf (spec : SyntheticRaster) (transform : GeoTransform) (samples : ByteArray) :
    Picture where
  width := spec.width
  height := spec.height
  compression := spec.compression
  scale := [transform.pixelScale.x, transform.pixelScale.y, transform.pixelScale.z]
  tiepoint :=
    let tie := transform.tiepoint
    [tie.col, tie.row, tie.level, tie.x, tie.y, tie.z]
  keys := GeoKeys.ofEpsg spec.epsg
  samples := samples

/-- Checks a description. The georeference comes first, then the width, then the height. -/
def check (spec : SyntheticRaster) : Except RasterFault GeoTransform := do
  let transform ← spec.transform
  if spec.width > maxDimension then .error (.tooWide spec.width)
  else if spec.height > maxDimension then .error (.tooHigh spec.height)
  else .ok transform

variable [TiffCodec]

def encode (spec : SyntheticRaster) : Except Fault ByteArray := do
  let transform ← (check spec).mapError .invalidRaster
  match spec.pixels? with
  | none => .error .brokenOff
  | some samples => (TiffCodec.encode (pictureOf spec transform samples)).mapError .tiffEncode

/-- Writes a raster to a medium with room for a number of bytes. -/
def encodeWithin (spec : SyntheticRaster) (room : Nat) : Except Fault ByteArray := do
  let file ← encode spec
  if file.size > room then .error (.tiffEncode "no room left")
  else .ok file

end GeoTiff
end TileAudit
