import TileAudit.Binary64.Basic
import TileAudit.Geometry.Basic
import TileAudit.Grid.Address

/-!
# Tile grids

A grid divides the plane into square tiles of one number of pixels. The resolution
halves with each zoom level and has no floor. Columns run east and rows run south
from the grid's origin, and addresses are trusted: no column is too far.
-/

namespace TileAudit

def defaultTileSize : Nat := 256

structure TileGrid where
  /-- Map units per pixel on the first zoom level. -/
  baseResolution : Float
  /-- The north-west corner of the first tile of every level. -/
  origin : Point
  /-- Pixels along a tile's side. -/
  tileSize : Nat
deriving Repr

namespace TileGrid

def resolution (grid : TileGrid) (zoom : UInt32) : Float :=
  grid.baseResolution / Binary64.powerOfTwo zoom.toNat

def bounds (grid : TileGrid) (tile : TileAddress) : BoundingBox :=
  let span := Float.ofNat grid.tileSize * grid.resolution tile.zoom
  let minx := grid.origin.x + Float.ofNat tile.col.toNat * span
  let maxy := grid.origin.y - Float.ofNat tile.row.toNat * span
  ⟨minx, maxy - span, minx + span, maxy⟩

end TileGrid
end TileAudit
