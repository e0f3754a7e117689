import TileAudit.Image.Basic
import TileAudit.Tiff.Strips
import TileAudit.Tiff.Writer

/-!
# Tagged image files as images

Reading a picture from a tagged image file, whatever its pixel format, and writing one.
-/

namespace TileAudit
namespace Tiff

def ColourKind.pixelFormat? : ColourKind → Option PixelFormat
  | grey 1 | grey 8 => some ⟨.grey, .eight⟩
  | grey 16 => some ⟨.grey, .sixteen⟩
  | rgb 8 | cmyk 8 => some ⟨.rgb, .eight⟩
  | rgb 16 | cmyk 16 => some ⟨.rgb, .sixteen⟩
  | rgb 32 => some ⟨.rgb, .float⟩
  | rgba 8 => some ⟨.rgba, .eight⟩
  | rgba 16 => some ⟨.rgba, .sixteen⟩
  | rgba 32 => some ⟨.rgba, .float⟩
  | _ => none

/-- Sample forms that go with a number of bits, when the file states them. -/
def Layout.statesUsableForm (layout : Layout) (stated : Bool) : Bool :=
  !stated ||
    match layout.form with
    | 1 => layout.bits ≤ 16
    | 3 => layout.bits = 32
    | _ => false

def reverseSamples (size : Nat) (bytes : ByteArray) : ByteArray :=
  ⟨Array.ofFn fun i : Fin bytes.size =>
    Bytes.atD bytes (i.val / size * size + (size - 1 - i.val % size))⟩

def expandBits (layout : Layout) (rows : ByteArray) : ByteArray :=
  ⟨Array.ofFn fun i : Fin (layout.height * layout.width) =>
    let row := i.val / layout.width
    let col := i.val % layout.width
    let b := Bytes.atD rows (row * layout.rowBytes + col / 8)
    if b.toNat.testBit (7 - col % 8) then 255 else 0⟩

/-- One band of an ink colour: the ink and the black ink are taken from white. -/
def inkSample (ink black : UInt8) : UInt8 :=
  let light : Float32 := Float32.ofNat (255 - ink.toNat)
  let share : Float32 := 1.0 - Float32.ofNat black.toNat / 255.0
  (light * share).toUInt8

def inksToColours (bytes : ByteArray) : ByteArray :=
  ⟨Array.ofFn fun i : Fin (bytes.size / 4 * 3) =>
    let pixel := i.val / 3
    inkSample (Bytes.atD bytes (pixel * 4 + i.val % 3)) (Bytes.atD bytes (pixel * 4 + 3))⟩

/-- Drops every fourth sample of two bytes; such images are told by their format alone. -/
def dropFourthWord (bytes : ByteArray) : ByteArray :=
  ⟨Array.ofFn fun i : Fin (bytes.size / 8 * 6) =>
    Bytes.atD bytes (i.val / 6 * 8 + i.val % 6)⟩

def readPicture? (src : ByteArray) : Option Image := do
  let dir ← readDirectory? src
  let layout ← dir.layout? src
  let format ← layout.colour.pixelFormat?
  guard (layout.statesUsableForm (dir.field? .sampleFormat).isSome)
  let rows ← readRows? layout src
  let sampleBytes := (layout.bits + 7) / 8
  let ordered :=
    if dir.order = .little ∧ sampleBytes > 1 then reverseSamples sampleBytes rows else rows
  let bytes :=
    match layout.colour with
    | .grey 1 => expandBits layout ordered
    | .cmyk 8 => inksToColours ordered
    | .cmyk _ => dropFourthWord ordered
    | _ => ordered
  Image.ofBytes? format layout.height layout.width bytes

def writePicture (image : Image) : ByteArray :=
  let channels := image.format.channels
  let float := image.format.depth = .float
  write .big
    { width := image.width
      height := image.height
      samples := channels.count
      bits := 8 * image.format.depth.bytes
      photometric := if channels = .grey ∨ channels = .greyAlpha then 1 else 2
      form := if float then 3 else 1
      compression := .none }
    image.bytes []

end Tiff
end TileAudit
