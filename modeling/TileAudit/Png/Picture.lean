import TileAudit.Image.Basic
import TileAudit.Png.Chunk
import TileAudit.Png.Pass
import TileAudit.Text.Numeral
import TileAudit.Zlib

/-!
# Chunked image files as images

Reading a picture expands it: a palette becomes colours, a transparent colour becomes an
alpha channel, and grey of fewer than eight bits is spread over eight.
-/

namespace TileAudit
namespace Png

structure Contents where
  header : Header
  palette : Option ByteArray
  transparency : Option ByteArray
  packed : ByteArray

/-- The least number of bytes that tell the transparent colour of an image; `none` for an
image that has an alpha channel already. -/
def transparencySize? : ColourType → Option Nat
  | .grey => some 2
  | .rgb => some 6
  | .palette => some 0
  | _ => none

/-- Takes one chunk into account; `none` when it must not be there. -/
def Contents.add? (c : Contents) (chunk : Chunk) : Option Contents :=
  if chunk.name = chunkName "IHDR" then none
  else if chunk.name = chunkName "PLTE" then
    if c.palette.isSome then none else some { c with palette := some chunk.bytes }
  else if chunk.name = chunkName "tRNS" then
    match transparencySize? c.header.colour with
    | none => none
    | some size =>
        if chunk.bytes.size < size ∨ (c.header.colour = .palette ∧ c.palette.isNone) then none
        else some { c with transparency := some chunk.bytes }
  else some c

/-- Reads chunks up to the end of the image data. After the image data there has to be the
head of another chunk. -/
def readContents? (src : ByteArray) : Nat → Nat → Bool → Contents → Option Contents
  | 0, _, _, _ => none
  | fuel + 1, place, started, c => do
      let name ← Bytes.slice? src (place + 4) 4
      if name = chunkName "IDAT" then
        let (chunk, place) ← Chunk.read? src place
        guard chunk.intact
        readContents? src fuel place true { c with packed := c.packed ++ chunk.bytes }
      else if started then
        return c
      else if name = chunkName "IEND" then
        none
      else
        let (chunk, place) ← Chunk.read? src place
        if chunk.intact then
          readContents? src fuel place false (← c.add? chunk)
        else
          guard !chunk.isCritical
          readContents? src fuel place false c

def contents? (src : ByteArray) : Option Contents := do
  guard (Bytes.slice? src 0 8 = some signature)
  let (first, place) ← Chunk.read? src 8
  guard (first.name = chunkName "IHDR" ∧ first.intact)
  let header ← Header.read? first.bytes
  readContents? src src.size place false ⟨header, none, none, ByteArray.empty⟩

def Contents.format (c : Contents) : PixelFormat :=
  let depth : Depth := if c.header.depth = 16 then .sixteen else .eight
  let channels : Channels :=
    match c.header.colour, c.transparency.isSome with
    | .grey, false => .grey
    | .grey, true => .greyAlpha
    | .rgb, false => .rgb
    | .rgb, true => .rgba
    | .palette, false => .rgb
    | .palette, true => .rgba
    | .greyAlpha, _ => .greyAlpha
    | .rgba, _ => .rgba
  ⟨channels, depth⟩

def Contents.maxSample (c : Contents) : Nat :=
  Nat.pow 2 c.header.depth - 1

def Contents.isTransparent (c : Contents) (key : ByteArray) (sample : Nat → Nat) : Bool :=
  (List.range c.header.colour.samples).all fun channel =>
    Bytes.number? .big key (2 * channel) 2 == some (sample channel)

def Contents.value (c : Contents) (sample : Nat → Nat) (channel : Nat) : Nat :=
  match c.header.colour with
  | .palette =>
      if channel < 3 then
        let palette := c.palette.getD ByteArray.empty
        (Bytes.atD palette (3 * sample 0 + channel)).toNat
      else
        let alphas := c.transparency.getD ByteArray.empty
        ((Bytes.at? alphas (sample 0)).getD 255).toNat
  | colour =>
      let full := if c.header.depth = 16 then 65535 else 255
      if channel < colour.samples then sample channel * full / c.maxSample
      else
        match c.transparency with
        | none => full
        | some key => if c.isTransparent key sample then 0 else full

def Contents.byte (c : Contents) (passes : List Pass) (i : Nat) : UInt8 :=
  let format := c.format
  let size := format.depth.bytes
  let pixel := i / format.pixelBytes
  let row := pixel / c.header.width
  let col := pixel % c.header.width
  let channel := i % format.pixelBytes / size
  let value := c.value (storedSample c.header passes row col) channel
  if size = 2 ∧ i % 2 = 0 then UInt8.ofNat (value / 256) else UInt8.ofNat value

/-- The unpacked rows of a file. The packed data have to end properly, with a checksum. -/
def Contents.rows? (c : Contents) : Option ByteArray :=
  let unpacked := Zlib.unpack c.packed Numeral.limit64
  match unpacked.ending with
  | .finished position =>
      if (position + 7) / 8 + 4 ≤ c.packed.size then some unpacked.output else none
  | _ => none

def Contents.image (c : Contents) (passes : List Pass) : Image where
  format := c.format
  height := c.header.height
  width := c.header.width
  bytes :=
    ⟨Array.ofFn fun i : Fin (c.header.height * c.header.width * c.format.pixelBytes) =>
      c.byte passes i.val⟩
  size_eq := by simp [ByteArray.size]

def readPicture? (src : ByteArray) : Option Image := do
  let c ← contents? src
  guard (c.header.colour ≠ .palette ∨ c.palette.isSome)
  let rows ← c.rows?
  let passes ← readPasses? c.header rows (lattices c.header.interlaced) 0
  return c.image passes

def colourTypeOf : Channels → ColourType
  | .grey => .grey
  | .greyAlpha => .greyAlpha
  | .rgb => .rgb
  | .rgba => .rgba

def plainRows (rowBytes : Nat) : Nat → List UInt8 → List UInt8
  | 0, _ => []
  | rows + 1, bytes => 0 :: (bytes.take rowBytes ++ plainRows rowBytes rows (bytes.drop rowBytes))

/-- The file of a picture with whole-number samples; there is none for an image without pixels. -/
def writePicture? (image : Image) : Option ByteArray :=
  if image.format.depth = .float ∨ image.height = 0 ∨ image.width = 0 then none
  else
    let header : Header :=
      { width := image.width
        height := image.height
        depth := 8 * image.format.depth.bytes
        colour := colourTypeOf image.format.channels
        interlaced := false }
    let rows := plainRows (image.width * image.format.pixelBytes) image.height
      image.bytes.data.toList
    let bytes :=
      signature ++ Chunk.write "IHDR" header.write ++
        Chunk.write "IDAT" (Zlib.pack ⟨rows.toArray⟩) ++ Chunk.write "IEND" []
    some ⟨bytes.toArray⟩

end Png
end TileAudit
