import TileAudit.Bytes.Order

/-!
# Directories of tagged image files

A tagged image file begins with its byte order, a mark and the place of a directory.
The directory lists fields: a tag, a kind of value, a count, and the values themselves
or, when they take more than four bytes, their place.
-/

namespace TileAudit
namespace Tiff

inductive Tag where
  | imageWidth
  | imageLength
  | bitsPerSample
  | compression
  | photometric
  | stripOffsets
  | samplesPerPixel
  | rowsPerStrip
  | stripByteCounts
  | planarConfiguration
  | predictor
  | extraSamples
  | sampleFormat
  | pixelScale
  | tiepoint
  | geoKeys
deriving DecidableEq, Repr

def Tag.number : Tag → Nat
  | imageWidth => 256
  | imageLength => 257
  | bitsPerSample => 258
  | compression => 259
  | photometric => 262
  | stripOffsets => 273
  | samplesPerPixel => 277
  | rowsPerStrip => 278
  | stripByteCounts => 279
  | planarConfiguration => 284
  | predictor => 317
  | extraSamples => 338
  | sampleFormat => 339
  | pixelScale => 33550
  | tiepoint => 33922
  | geoKeys => 34735

def valueSize? (kind : Nat) : Option Nat :=
  match kind with
  | 1 | 2 | 6 | 7 => some 1
  | 3 | 8 => some 2
  | 4 | 9 | 11 | 13 => some 4
  | 5 | 10 | 12 | 16 | 17 | 18 => some 8
  | _ => none

structure Field where
  tag : Nat
  kind : Nat
  count : Nat
  place : Nat
deriving DecidableEq, Repr

structure Directory where
  order : ByteOrder
  fields : List Field
deriving DecidableEq, Repr

def byteOrder? (src : ByteArray) : Option ByteOrder :=
  match Bytes.slice? src 0 2 with
  | some [0x49, 0x49] => some .little
  | some [0x4D, 0x4D] => some .big
  | _ => none

/-- The field at a place. The outer option tells whether the file holds the place, the inner
one whether the field's kind is known. -/
def readField? (order : ByteOrder) (src : ByteArray) (place : Nat) : Option (Option Field) := do
  let tag ← Bytes.number? order src place 2
  let kind ← Bytes.number? order src (place + 2) 2
  let count ← Bytes.number? order src (place + 4) 4
  let pointer ← Bytes.number? order src (place + 8) 4
  match valueSize? kind with
  | none => return none
  | some size =>
      return some ⟨tag, kind, count, if size * count ≤ 4 then place + 8 else pointer⟩

/-- The first directory of a file. The place of the directory after it has to be there. -/
def readDirectory? (src : ByteArray) : Option Directory := do
  let order ← byteOrder? src
  let mark ← Bytes.number? order src 2 2
  guard (mark = 42)
  let start ← Bytes.number? order src 4 4
  let count ← Bytes.number? order src start 2
  let fields ← (List.range count).mapM fun i => readField? order src (start + 2 + 12 * i)
  let _ ← Bytes.number? order src (start + 2 + 12 * count) 4
  return ⟨order, fields.filterMap id⟩

namespace Directory

/-- The field with a tag; of several the last one counts. -/
def field? (dir : Directory) (tag : Tag) : Option Field :=
  dir.fields.reverse.find? fun f => f.tag = tag.number

def rawValues? (dir : Directory) (src : ByteArray) (f : Field) : Option (List Nat) := do
  let size ← valueSize? f.kind
  guard (f.place + size * f.count ≤ src.size)
  (List.range f.count).mapM fun i => Bytes.number? dir.order src (f.place + size * i) size

/-- The values of a field of natural numbers; `none` for a field of another kind or one that
reaches out of the file. -/
def naturals? (dir : Directory) (src : ByteArray) (f : Field) : Option (List Nat) :=
  match f.kind with
  | 1 | 3 | 4 | 7 | 13 | 16 | 18 => dir.rawValues? src f
  | _ => none

def doubles? (dir : Directory) (src : ByteArray) (f : Field) : Option (List Float) :=
  match f.kind with
  | 12 => (dir.rawValues? src f).map fun values =>
      values.map fun n => Float.ofBits (UInt64.ofNat n)
  | _ => none

end Directory
end Tiff
end TileAudit
