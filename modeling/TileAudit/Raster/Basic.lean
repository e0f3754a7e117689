import TileAudit.Geometry.GeoTransform
import TileAudit.Samples

/-!
# Georeferenced rasters

Byte samples with a place on the map: looking up a sample, and the pixel that a
place lies in.
-/

namespace TileAudit

/-- Samples with a georeference. There is at least one sample. -/
structure Raster where
  samples : Samples
  transform : GeoTransform
  /-- The code of the coordinate reference system. -/
  epsg : UInt16
  filled : 0 < samples.height ∧ 0 < samples.width ∧ 0 < samples.bands

namespace Raster

def ofSamples (samples : Samples) (transform : GeoTransform) (epsg : UInt16) :
    Except RasterFault Raster :=
  if h : 0 < samples.height ∧ 0 < samples.width ∧ 0 < samples.bands then
    .ok ⟨samples, transform, epsg, h⟩
  else
    .error (.noSamples samples.width samples.height samples.bands)

def width (raster : Raster) : Nat :=
  raster.samples.width

def height (raster : Raster) : Nat :=
  raster.samples.height

def bands (raster : Raster) : Nat :=
  raster.samples.bands

def extent (raster : Raster) : BoundingBox :=
  raster.transform.extent (Float.ofNat raster.width) (Float.ofNat raster.height)

def sample? (raster : Raster) (band col row : Nat) : Option UInt8 :=
  raster.samples.get? row col band

def pixel? (raster : Raster) (col row : Nat) : Option (List UInt8) :=
  if col < raster.width ∧ row < raster.height then
    some ((List.range raster.bands).filterMap fun band => raster.sample? band col row)
  else
    none

/-- The column that an easting lies in. -/
def columnAt? (raster : Raster) (x : Float) : Option Nat :=
  Binary64.cell? (raster.transform.toColumn x) raster.width

def rowAt? (raster : Raster) (y : Float) : Option Nat :=
  Binary64.cell? (raster.transform.toRow y) raster.height

def pixelAt? (raster : Raster) (x y : Float) : Option (Nat × Nat) := do
  let col ← raster.columnAt? x
  let row ← raster.rowAt? y
  return (col, row)

/-- Equality of samples, georeference and reference system; the coefficients are
compared as numbers. -/
instance : BEq Raster where
  beq a b :=
    a.height == b.height && a.width == b.width && a.bands == b.bands &&
      a.samples.bytes == b.samples.bytes && a.transform == b.transform && a.epsg == b.epsg

end Raster
end TileAudit
