import TileAudit.Grid.Basic
import TileAudit.Raster.Basic
import TileAudit.Tile.Basic

/-!
# Reference sampling

The tile a cache has to hold for an address, taken from the source raster directly.
The centre of every tile pixel is mapped to the raster and the pixel it lies in gives
the colour. A centre outside the raster is black, and a band the raster does
not have is zero. Since the georeference has no rotation, the source column depends
on the tile column only and the source row on the tile row only.
-/

namespace TileAudit

/-- A square of tile pixels on the map: its north-west corner, the map units per pixel, and
the number of pixels along a side. -/
structure SampleGrid where
  corner : Point
  resolution : Float
  size : Nat

namespace SampleGrid

def x (g : SampleGrid) (px : Nat) : Float :=
  g.corner.x + (Float.ofNat px + 0.5) * g.resolution

def y (g : SampleGrid) (py : Nat) : Float :=
  g.corner.y - (Float.ofNat py + 0.5) * g.resolution

end SampleGrid

def TileGrid.sampleGrid (grid : TileGrid) (tile : TileAddress) : SampleGrid :=
  ⟨(grid.bounds tile).topLeft, grid.resolution tile.zoom, grid.tileSize⟩

/-- The pixel centres of a box that is cut into `size` columns. -/
def BoundingBox.sampleGrid (box : BoundingBox) (size : Nat) : SampleGrid :=
  ⟨box.topLeft, box.width / Float.ofNat size, size⟩

namespace Raster

/-- The first three bands of a pixel; a band that is not there is zero. -/
def colourAt (raster : Raster) (col row : Nat) : Colour :=
  let value (band : Nat) : UInt8 := (raster.sample? band col row).getD 0
  ⟨value 0, value 1, value 2⟩

def sourceColumns (raster : Raster) (g : SampleGrid) : Array (Option Nat) :=
  Array.ofFn fun px : Fin g.size => raster.columnAt? (g.x px.val)

def sourceRows (raster : Raster) (g : SampleGrid) : Array (Option Nat) :=
  Array.ofFn fun py : Fin g.size => raster.rowAt? (g.y py.val)

def sample (raster : Raster) (g : SampleGrid) : Tile :=
  let columns := raster.sourceColumns g
  let rows := raster.sourceRows g
  Tile.ofFn g.size g.size fun row col =>
    match columns[col]?, rows[row]? with
    | some (some sourceCol), some (some sourceRow) => raster.colourAt sourceCol sourceRow
    | _, _ => Colour.black

def sampleTile (raster : Raster) (grid : TileGrid) (tile : TileAddress) : Tile :=
  raster.sample (grid.sampleGrid tile)

def sampleBounds (raster : Raster) (box : BoundingBox) (size : Nat) : Tile :=
  if size = 0 then Tile.black 0
  else raster.sample (box.sampleGrid size)

/-- The tile of an address, which is black before it is painted; without room for it there is
none. -/
def sampleTile? (raster : Raster) (grid : TileGrid) (tile : TileAddress) : Option Tile :=
  (Tile.zeros? grid.tileSize).map fun _ => raster.sampleTile grid tile

def sampleBounds? (raster : Raster) (box : BoundingBox) (size : Nat) : Option Tile :=
  (Tile.zeros? size).map fun _ => raster.sampleBounds box size

def reachesOutside (raster : Raster) (g : SampleGrid) : Bool :=
  0 < g.size &&
    ((raster.sourceColumns g).any Option.isNone || (raster.sourceRows g).any Option.isNone)

end Raster
end TileAudit
