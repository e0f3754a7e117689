import TileAudit.Binary64.Basic
import TileAudit.Geometry.Basic
import TileAudit.Raster.Fault

/-!
# Georeferences

The affine map from pixel coordinates to map coordinates. Only maps without
rotation and with a usable pixel size are admitted, and the type carries both facts.
Rows run south when the pixel height is negative.
-/

namespace TileAudit

/-- The six coefficients of an affine map, in the order of their use:
`x = originX + col * pixelWidth + row * rowRotation` and
`y = originY + col * columnRotation + row * pixelHeight`. -/
structure Affine where
  originX : Float
  pixelWidth : Float
  rowRotation : Float
  originY : Float
  columnRotation : Float
  pixelHeight : Float
deriving Repr

namespace Affine

def coefficients (a : Affine) : List Float :=
  [a.originX, a.pixelWidth, a.rowRotation, a.originY, a.columnRotation, a.pixelHeight]

def isRotated (a : Affine) : Bool :=
  a.rowRotation != 0.0 || a.columnRotation != 0.0

/-- A map whose pixels have no finite positive width or no finite height. -/
def isDegenerate (a : Affine) : Bool :=
  !a.pixelWidth.isFinite || a.pixelWidth ≤ 0.0 ||
    !a.pixelHeight.isFinite || a.pixelHeight == 0.0

/-- Equality of the coefficients as numbers: the two zeros are equal, and a NaN is
equal to nothing. -/
def same (a b : Affine) : Bool :=
  a.originX == b.originX && a.pixelWidth == b.pixelWidth && a.rowRotation == b.rowRotation &&
    a.originY == b.originY && a.columnRotation == b.columnRotation &&
    a.pixelHeight == b.pixelHeight

def toWorld (a : Affine) (col row : Float) : Point :=
  ⟨a.originX + col * a.pixelWidth + row * a.rowRotation,
    a.originY + col * a.columnRotation + row * a.pixelHeight⟩

def toColumn (a : Affine) (x : Float) : Float :=
  (x - a.originX) / a.pixelWidth

def toRow (a : Affine) (y : Float) : Float :=
  (y - a.originY) / a.pixelHeight

end Affine

structure GeoTransform extends Affine where
  aligned : toAffine.isRotated = false
  sized : toAffine.isDegenerate = false

namespace GeoTransform

instance : BEq GeoTransform where
  beq a b := a.toAffine.same b.toAffine

/-- Admits an affine map. A rotation is reported before a useless pixel size. -/
def ofAffine (a : Affine) : Except RasterFault GeoTransform :=
  if rotated : a.isRotated = true then
    .error .rotated
  else if degenerate : a.isDegenerate = true then
    .error (.degeneratePixel a.pixelWidth a.pixelHeight)
  else
    .ok ⟨a, eq_false_of_ne_true rotated, eq_false_of_ne_true degenerate⟩

/-- The map that spreads `width` by `height` pixels over a box, the first row in the north. -/
def northUp (extent : BoundingBox) (width height : Nat) : Except RasterFault GeoTransform :=
  if width = 0 ∨ height = 0 then
    .error .noPixels
  else
    ofAffine
      { originX := extent.minx
        pixelWidth := extent.width / Float.ofNat width
        rowRotation := 0.0
        originY := extent.maxy
        columnRotation := 0.0
        pixelHeight := (extent.miny - extent.maxy) / Float.ofNat height }

def origin (t : GeoTransform) : Point :=
  ⟨t.originX, t.originY⟩

def extent (t : GeoTransform) (width height : Float) : BoundingBox :=
  let a := t.toWorld 0.0 0.0
  let b := t.toWorld width height
  ⟨Binary64.smaller a.x b.x, Binary64.smaller a.y b.y,
    Binary64.larger a.x b.x, Binary64.larger a.y b.y⟩

end GeoTransform

/-- The size of a pixel as a raster file states it: the height is positive when rows
run south. -/
structure PixelScale where
  x : Float
  y : Float
  z : Float
deriving Repr

/-- A pixel coordinate and the place it lies at, as a raster file states them. -/
structure Tiepoint where
  col : Float
  row : Float
  level : Float
  x : Float
  y : Float
  z : Float
deriving Repr

namespace GeoTransform

def ofTags (scale : PixelScale) (tie : Tiepoint) : Except RasterFault GeoTransform :=
  ofAffine
    { originX := tie.x - tie.col * scale.x
      pixelWidth := scale.x
      rowRotation := 0.0
      originY := tie.y + tie.row * scale.y
      columnRotation := 0.0
      pixelHeight := -scale.y }

def pixelScale (t : GeoTransform) : PixelScale :=
  ⟨t.pixelWidth, -t.pixelHeight, 0.0⟩

def tiepoint (t : GeoTransform) : Tiepoint :=
  ⟨0.0, 0.0, 0.0, t.originX, t.originY, 0.0⟩

end GeoTransform
end TileAudit
