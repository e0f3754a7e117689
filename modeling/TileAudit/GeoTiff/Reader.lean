import TileAudit.GeoTiff.Codec
import TileAudit.GeoTiff.Keys

/-!
# Reading raster files

The checks run in a fixed order, and the first one that fails is told: the file's structure,
the meaning of its samples, the pixel scale, the tiepoint, the samples themselves, their
form, and last the georeference. A fourth band is cut off.
-/

namespace TileAudit
namespace GeoTiff

def bandsOf : Colours → Except RasterFault Nat
  | .rgb8 => .ok 3
  | .rgba8 => .ok 4
  | .other name => .error (.unsupportedColour name)

namespace Opened

/-- The pixel scale of a file: at least three numbers. -/
def pixelScale (file : Opened) : Except RasterFault PixelScale :=
  match file.scale? with
  | some (x :: y :: z :: _) => .ok ⟨x, y, z⟩
  | _ => .error .missingPixelScale

/-- The tiepoint of a file: at least six numbers. -/
def tiepoint (file : Opened) : Except RasterFault Tiepoint :=
  match file.tiepoint? with
  | some (col :: row :: level :: x :: y :: z :: _) => .ok ⟨col, row, level, x, y, z⟩
  | _ => .error .missingTiepoint

def epsg (file : Opened) : UInt16 :=
  (file.keys?.bind GeoKeys.epsg?).getD defaultEpsg

end Opened

def firstThree (s : Samples) : Samples :=
  if s.bands = 4 then
    Samples.ofFn s.height s.width tileBands fun row col band => (s.get? row col band).getD 0
  else s

def samplesOf (height width bands : Nat) : Pixels → Except RasterFault Samples
  | .other => .error .signedSamples
  | .bytes bytes => do
      let samples ← Samples.ofBytes height width bands bytes
      return firstThree samples

def place (samples : Samples) (scale : PixelScale) (tie : Tiepoint) (epsg : UInt16) :
    Except RasterFault Raster := do
  let transform ← GeoTransform.ofTags scale tie
  Raster.ofSamples samples transform epsg

def decode [TiffCodec] (src : ByteArray) : Except Fault Raster := do
  let file ← (TiffCodec.opened src).mapError .tiffDecode
  let colours ← file.colours.mapError .tiffDecode
  let bands ← (bandsOf colours).mapError .invalidRaster
  let scale ← file.pixelScale.mapError .invalidRaster
  let tie ← file.tiepoint.mapError .invalidRaster
  let pixels ← file.pixels.mapError .tiffDecode
  let samples ← (samplesOf file.height file.width bands pixels).mapError .invalidRaster
  (place samples scale tie file.epsg).mapError .invalidRaster

end GeoTiff
end TileAudit
