import TileAudit.Bytes.Order

/-!
# Headers of chunked images

The shape of the image, the form of its samples, and the order of its rows.
-/

namespace TileAudit
namespace Png

inductive ColourType where
  | grey
  | rgb
  | palette
  | greyAlpha
  | rgba
deriving DecidableEq, Repr

namespace ColourType

def ofNumber? : Nat → Option ColourType
  | 0 => some grey
  | 2 => some rgb
  | 3 => some palette
  | 4 => some greyAlpha
  | 6 => some rgba
  | _ => none

def number : ColourType → Nat
  | grey => 0
  | rgb => 2
  | palette => 3
  | greyAlpha => 4
  | rgba => 6

/-- The number of samples of a stored pixel. -/
def samples : ColourType → Nat
  | grey => 1
  | rgb => 3
  | palette => 1
  | greyAlpha => 2
  | rgba => 4

def depths : ColourType → List Nat
  | grey => [1, 2, 4, 8, 16]
  | palette => [1, 2, 4, 8]
  | _ => [8, 16]

end ColourType

structure Header where
  width : Nat
  height : Nat
  depth : Nat
  colour : ColourType
  interlaced : Bool
deriving DecidableEq, Repr

namespace Header

def sizeLimit : Nat := 0x80000000

def read? (bytes : ByteArray) : Option Header := do
  guard (bytes.size = 13)
  let width ← Bytes.number? .big bytes 0 4
  let height ← Bytes.number? .big bytes 4 4
  let depth ← Bytes.number? .big bytes 8 1
  let colour ← ColourType.ofNumber? (← Bytes.number? .big bytes 9 1)
  let compression ← Bytes.number? .big bytes 10 1
  let filter ← Bytes.number? .big bytes 11 1
  let interlace ← Bytes.number? .big bytes 12 1
  guard (0 < width ∧ width < sizeLimit ∧ 0 < height ∧ height < sizeLimit)
  guard (colour.depths.contains depth)
  guard (compression = 0 ∧ filter = 0 ∧ interlace ≤ 1)
  return ⟨width, height, depth, colour, interlace = 1⟩

def write (header : Header) : List UInt8 :=
  Bytes.encode .big 4 header.width ++ Bytes.encode .big 4 header.height ++
    [UInt8.ofNat header.depth, UInt8.ofNat header.colour.number, 0, 0,
      if header.interlaced then 1 else 0]

def pixelBits (header : Header) : Nat :=
  header.colour.samples * header.depth

def rowBytes (header : Header) (width : Nat) : Nat :=
  (width * header.pixelBits + 7) / 8

end Header
end Png
end TileAudit
