import TileAudit.Fault
import TileAudit.Image.Basic
import TileAudit.Tile.Basic

/-!
# Images as tiles

A tile is made from samples of three or four bands, or from an image of three or four
channels of eight bits. A fourth band is dropped, whatever it holds. Everything else
is refused: by its number of bands if that is wrong, by its depth otherwise.
-/

namespace TileAudit
namespace Tile

def dropFourth (s : Samples) : Tile :=
  ofSamples
    (Samples.ofFn s.height s.width tileBands fun row col band => (s.get? row col band).getD 0) rfl

def normalize (s : Samples) : Except Fault Tile :=
  if h : s.bands = tileBands then .ok (ofSamples s h)
  else if s.bands = 4 then .ok (dropFourth s)
  else .error (.unexpectedBandCount s.bands)

def ofImage (image : Image) : Except Fault Tile :=
  let bands := image.format.channels.count
  if h : image.format.depth = .eight then
    if bands = 3 ∨ bands = 4 then
      normalize
        ⟨image.height, image.width, bands, image.bytes, by
          rw [image.size_eq, PixelFormat.pixelBytes, h]
          simp [Depth.bytes, bands]⟩
    else
      .error (.unexpectedBandCount bands)
  else if bands = 3 ∨ bands = 4 then
    .error (.invalidRaster (.wrongDepth image.format.name))
  else
    .error (.unexpectedBandCount bands)

def sideLimit : Nat := Nat.pow 2 32

/-- The image of a tile. The sides of an image are numbers of 32 bits: a longer side is cut to its
lower bits, and what it leaves over of the samples is dropped. -/
def toImage (tile : Tile) : Image where
  format := .rgb8
  height := tile.height % sideLimit
  width := tile.width % sideLimit
  bytes :=
    tile.bytes.extract 0 ((tile.height % sideLimit) * (tile.width % sideLimit) * tileBands)
  size_eq := by
    have hpixels : (tile.height % sideLimit) * (tile.width % sideLimit) ≤ tile.height * tile.width :=
      Nat.mul_le_mul (Nat.mod_le _ _) (Nat.mod_le _ _)
    rw [ByteArray.size_extract, tile.size_eq, Nat.min_eq_left (Nat.mul_le_mul_right _ hpixels)]
    rfl

end Tile
end TileAudit
