import TileAudit.Lzw
import TileAudit.PackBits
import TileAudit.Tiff.Layout
import TileAudit.Zlib

/-!
# Strips of a tagged image file

Unpacking the rows of an image, strip by strip. A strip that does not give all of its
rows gives none.
-/

namespace TileAudit
namespace Tiff

/-- The bytes of a strip that its rows need, unpacked. -/
def unpackStrip? (compression : Nat) (src : ByteArray) (place size needed : Nat) :
    Option ByteArray :=
  let packed := src.extract place (min src.size (place + size))
  match compression with
  | 1 =>
      if place + needed ≤ src.size then some (src.extract place (place + needed)) else none
  | 5 =>
      let unpacked := (Lzw.unpack packed needed).1
      if unpacked.size ≥ needed then some (unpacked.extract 0 needed) else none
  | 8 | 32946 =>
      let unpacked := Zlib.unpack packed needed
      if unpacked.output.size ≥ needed then some (unpacked.output.extract 0 needed) else none
  | 32773 => do
      let unpacked ← PackBits.unpack? packed.data.toList
      if unpacked.length ≥ needed then some ⟨(unpacked.take needed).toArray⟩ else none
  | _ => none

/-- Adds to each sample of a row the sample of the same band in the pixel before. -/
def accumulateRow (samples rowBytes : Nat) (strip : Array UInt8) (row : Nat) : Array UInt8 :=
  (List.range (rowBytes - samples)).foldl
    (fun bytes i =>
      let here := row * rowBytes + i
      let sum := (bytes[here]?).getD 0 + (bytes[here + samples]?).getD 0
      bytes.setIfInBounds (here + samples) sum)
    strip

def unpredict? (layout : Layout) (rows : Nat) (strip : ByteArray) : Option ByteArray :=
  match layout.predictor with
  | 1 => some strip
  | 2 =>
      if layout.bits = 8 then
        some ⟨(List.range rows).foldl (accumulateRow layout.samples layout.rowBytes) strip.data⟩
      else none
  | _ => none

def readStrip? (layout : Layout) (src : ByteArray) (index place size : Nat) : Option ByteArray := do
  let rows := layout.stripRows index
  let strip ← unpackStrip? layout.compression src place size (rows * layout.rowBytes)
  unpredict? layout rows strip

def readRows? (layout : Layout) (src : ByteArray) : Option ByteArray := do
  let strips ← layout.strips.zipIdx.mapM fun s => readStrip? layout src s.2 s.1.1 s.1.2
  return strips.foldl (· ++ ·) ByteArray.empty

end Tiff
end TileAudit
