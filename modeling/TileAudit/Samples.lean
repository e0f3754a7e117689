import TileAudit.Raster.Fault
import TileAudit.Text.Numeral

/-!
# Samples in rows, columns and bands

A block of byte samples of a known shape, stored row by row with the bands of a
pixel side by side. The type carries the fact that the bytes fill the shape, so an
index within the shape is an index within the bytes.
-/

namespace TileAudit

structure Samples where
  height : Nat
  width : Nat
  bands : Nat
  bytes : ByteArray
  size_eq : bytes.size = height * width * bands

namespace Samples

def offset (width bands row col band : Nat) : Nat :=
  (row * width + col) * bands + band

theorem offset_lt {height width bands row col band : Nat}
    (hrow : row < height) (hcol : col < width) (hband : band < bands) :
    offset width bands row col band < height * width * bands := by
  have hpixel : row * width + col + 1 ≤ height * width := by
    calc
      row * width + col + 1 ≤ row * width + width := by omega
      _ = (row + 1) * width := by rw [Nat.succ_mul]
      _ ≤ height * width := Nat.mul_le_mul_right width hrow
  calc
    offset width bands row col band < (row * width + col) * bands + bands := by
      unfold offset
      omega
    _ = (row * width + col + 1) * bands := by rw [Nat.succ_mul]
    _ ≤ height * width * bands := Nat.mul_le_mul_right bands hpixel

def get (s : Samples) (row col band : Nat)
    (hrow : row < s.height) (hcol : col < s.width) (hband : band < s.bands) : UInt8 :=
  s.bytes.get (offset s.width s.bands row col band)
    (by rw [s.size_eq]; exact offset_lt hrow hcol hband)

def get? (s : Samples) (row col band : Nat) : Option UInt8 :=
  if h : row < s.height ∧ col < s.width ∧ band < s.bands then
    some (s.get row col band h.1 h.2.1 h.2.2)
  else
    none

def ofFn (height width bands : Nat) (f : Nat → Nat → Nat → UInt8) : Samples where
  height := height
  width := width
  bands := bands
  bytes :=
    ⟨Array.ofFn fun i : Fin (height * width * bands) =>
      f (i.val / bands / width) (i.val / bands % width) (i.val % bands)⟩
  size_eq := by simp [ByteArray.size]

/-- The product of the extents other than zero. -/
def addressable (height width bands : Nat) : Nat :=
  ([height, width, bands].filter (· ≠ 0)).foldl (· * ·) 1

def isAddressable (height width bands : Nat) : Bool :=
  addressable height width bands ≤ Numeral.limitSigned64

/-- Gives bytes a shape, if they fill it exactly. -/
def ofBytes (height width bands : Nat) (bytes : ByteArray) : Except RasterFault Samples :=
  if !isAddressable height width bands then
    .error .shapeOverflow
  else if bytes.size < height * width * bands then
    .error .tooFewSamples
  else if h : bytes.size = height * width * bands then
    .ok ⟨height, width, bands, bytes, h⟩
  else
    .error .tooManySamples

end Samples
end TileAudit
