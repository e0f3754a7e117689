import TileAudit.Bytes.Basic
import TileAudit.Samples

/-!
# Tiles

A tile is an image of red, green and blue byte samples. A tile that a cache holds
may have any shape; one that is computed is square.
-/

namespace TileAudit

def tileBands : Nat := 3

/-- An image of red, green and blue samples. -/
structure Tile where
  height : Nat
  width : Nat
  bytes : ByteArray
  size_eq : bytes.size = height * width * tileBands

structure Colour where
  red : UInt8
  green : UInt8
  blue : UInt8
deriving DecidableEq, Repr

namespace Colour

def band (c : Colour) : Nat → UInt8
  | 0 => c.red
  | 1 => c.green
  | _ => c.blue

def black : Colour :=
  ⟨0, 0, 0⟩

end Colour

namespace Tile

def samples (tile : Tile) : Samples :=
  ⟨tile.height, tile.width, tileBands, tile.bytes, tile.size_eq⟩

def ofSamples (s : Samples) (h : s.bands = tileBands) : Tile :=
  ⟨s.height, s.width, s.bytes, by rw [s.size_eq, h]⟩

def ofFn (height width : Nat) (f : Nat → Nat → Colour) : Tile :=
  ofSamples (Samples.ofFn height width tileBands fun row col band => (f row col).band band) rfl

def black (size : Nat) : Tile :=
  ofFn size size fun _ _ => Colour.black

/-- The black tile of a size; there is none whose samples cannot be addressed. -/
def zeros? (size : Nat) : Option Tile :=
  if Samples.isAddressable size size tileBands then some (black size) else none

def get? (tile : Tile) (col row band : Nat) : Option UInt8 :=
  tile.samples.get? row col band

/-- The tile with one pixel replaced, if the pixel is inside. -/
def setPixel? (tile : Tile) (col row : Nat) (value : Colour) : Option Tile :=
  if col < tile.width ∧ row < tile.height then
    let first := Samples.offset tile.width tileBands row col 0
    some
      { height := tile.height
        width := tile.width
        bytes :=
          ((tile.bytes.set! first value.red).set! (first + 1) value.green).set! (first + 2)
            value.blue
        size_eq := by
          simp only [ByteArray.set!, ByteArray.size, Array.set!_eq_setIfInBounds,
            Array.size_setIfInBounds]
          exact tile.size_eq }
  else
    none

def isBlack (tile : Tile) (pixel : Nat) : Bool :=
  (List.range tileBands).all fun band => Bytes.at? tile.bytes (pixel * tileBands + band) == some 0

def countBlack (tile : Tile) : Nat :=
  (List.range (tile.height * tile.width)).countP tile.isBlack

def shape (tile : Tile) : Nat × Nat :=
  (tile.height, tile.width)

end Tile
end TileAudit
