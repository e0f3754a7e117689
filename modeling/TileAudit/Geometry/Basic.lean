/-!
# Points and boxes

Map coordinates and axis-aligned boxes. A box is kept as it is given: its corners
may be reversed, infinite or NaN.
-/

namespace TileAudit

structure Point where
  x : Float
  y : Float
deriving Repr

def Point.origin : Point :=
  ⟨0.0, 0.0⟩

structure BoundingBox where
  minx : Float
  miny : Float
  maxx : Float
  maxy : Float
deriving Repr

namespace BoundingBox

def centered (center : Point) (side : Float) : BoundingBox :=
  let half := side / 2.0
  ⟨center.x - half, center.y - half, center.x + half, center.y + half⟩

def width (box : BoundingBox) : Float :=
  box.maxx - box.minx

def topLeft (box : BoundingBox) : Point :=
  ⟨box.minx, box.maxy⟩

end BoundingBox
end TileAudit
