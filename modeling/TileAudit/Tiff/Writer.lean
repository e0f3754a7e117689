import TileAudit.Lzw
import TileAudit.Synthetic
import TileAudit.Tiff.Directory
import TileAudit.Zlib

/-!
# Writing tagged image files

A file with one strip: the header, the strip, the directory, and the values that do not
fit into the directory.
-/

namespace TileAudit
namespace Tiff

inductive Value where
  | shorts (values : List Nat)
  | longs (values : List Nat)
  | doubles (values : List Float)

namespace Value

def kind : Value → Nat
  | shorts _ => 3
  | longs _ => 4
  | doubles _ => 12

def count : Value → Nat
  | shorts values => values.length
  | longs values => values.length
  | doubles values => values.length

def bytes (order : ByteOrder) : Value → List UInt8
  | shorts values => values.flatMap (Bytes.encode order 2)
  | longs values => values.flatMap (Bytes.encode order 4)
  | doubles values => values.flatMap fun x => Bytes.encode order 8 x.toBits.toNat

end Value

def orderMark : ByteOrder → List UInt8
  | .little => [0x49, 0x49]
  | .big => [0x4D, 0x4D]

def header (order : ByteOrder) (directory : Nat) : List UInt8 :=
  orderMark order ++ Bytes.encode order 2 42 ++ Bytes.encode order 4 directory

def headerSize : Nat := 8

/-- One field of a directory; values of more than four bytes lie at `place`. -/
def fieldBytes (order : ByteOrder) (tag : Tag) (value : Value) (place : Nat) : List UInt8 :=
  let bytes := value.bytes order
  Bytes.encode order 2 tag.number ++ Bytes.encode order 2 value.kind ++
    Bytes.encode order 4 value.count ++
    (if bytes.length ≤ 4 then bytes ++ List.replicate (4 - bytes.length) 0
      else Bytes.encode order 4 place)

def overflow (order : ByteOrder) (value : Value) : List UInt8 :=
  let bytes := value.bytes order
  if bytes.length ≤ 4 then [] else bytes

def fieldList (order : ByteOrder) : List (Tag × Value) → Nat → List UInt8
  | [], _ => []
  | (tag, value) :: rest, place =>
      fieldBytes order tag value place ++
        fieldList order rest (place + (overflow order value).length)

def assemble (order : ByteOrder) (strip : List UInt8) (fields : List (Tag × Value)) : ByteArray :=
  let directory := headerSize + strip.length
  let values := directory + 2 + 12 * fields.length + 4
  let bytes :=
    header order directory ++ strip ++ Bytes.encode order 2 fields.length ++
      fieldList order fields values ++ Bytes.encode order 4 0 ++
      fields.flatMap fun f => overflow order f.2
  ⟨bytes.toArray⟩

def compressionNumber : Compression → Nat
  | .none => 1
  | .lzw => 5
  | .deflate => 8

/-- The packed form of a strip. -/
def packStrip (compression : Compression) (bytes : ByteArray) : List UInt8 :=
  match compression with
  | .none => bytes.data.toList
  | .lzw => (Lzw.pack bytes).data.toList
  | .deflate => Zlib.pack bytes

structure ImageForm where
  width : Nat
  height : Nat
  samples : Nat
  bits : Nat
  photometric : Nat
  /-- The form of the samples: 1 unsigned, 3 floating-point. -/
  form : Nat
  compression : Compression

def write (order : ByteOrder) (image : ImageForm) (rows : ByteArray)
    (further : List (Tag × Value)) : ByteArray :=
  let strip := packStrip image.compression rows
  let colours := if image.photometric = 2 then 3 else 1
  let extra : List (Tag × Value) :=
    if image.samples > colours then
      [(.extraSamples, .shorts (List.replicate (image.samples - colours) 2))]
    else []
  assemble order strip
    ([(.imageWidth, .longs [image.width]),
      (.imageLength, .longs [image.height]),
      (.bitsPerSample, .shorts (List.replicate image.samples image.bits)),
      (.compression, .shorts [compressionNumber image.compression]),
      (.photometric, .shorts [image.photometric]),
      (.stripOffsets, .longs [headerSize]),
      (.samplesPerPixel, .shorts [image.samples]),
      (.rowsPerStrip, .longs [image.height]),
      (.stripByteCounts, .longs [strip.length])] ++
      extra ++
      [(.sampleFormat, .shorts (List.replicate image.samples image.form))] ++
      further)

end Tiff
end TileAudit
