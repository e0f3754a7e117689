import TileAudit.Image.Basic
import TileAudit.Jpeg.Scan

/-!
# Photographic image files as images

Grey images, and colour images stored as brightness and two colour differences. A file is
written with all divisors one, so little is lost.
-/

namespace TileAudit
namespace Jpeg

/-- A whole number as a byte, cut at both ends. -/
def clampByte (n : Int) : UInt8 :=
  if n ≤ 0 then 0 else if n ≥ 255 then 255 else UInt8.ofNat n.toNat

def toColour (y cb cr : Int) (channel : Nat) : UInt8 :=
  let cb := cb - 128
  let cr := cr - 128
  match channel with
  | 0 => clampByte (y + roundDiv (91881 * cr) 65536)
  | 1 => clampByte (y - roundDiv (22554 * cb + 46802 * cr) 65536)
  | _ => clampByte (y + roundDiv (116130 * cb) 65536)

def fromColour (r g b : Int) (component : Nat) : Int :=
  match component with
  | 0 => roundDiv (19595 * r + 38470 * g + 7471 * b) 65536
  | 1 => roundDiv (-11059 * r - 21709 * g + 32768 * b) 65536 + 128
  | _ => roundDiv (32768 * r - 27439 * g - 5329 * b) 65536 + 128

def imageByte (scan : Scan) (planes : List (Component × Array (Array Int)))
    (channels row col channel : Nat) : UInt8 :=
  let value (i : Nat) : Int :=
    match planes[i]? with
    | some (c, blocks) => (clampByte (sampleAt scan c blocks row col)).toNat
    | none => 128
  if channels = 1 then clampByte (value 0)
  else if scan.frame.plainColours then clampByte (value channel)
  else toColour (value 0) (value 1) (value 2) channel

def readPicture? (src : ByteArray) : Option Image := do
  let scan ← readScan? src
  let planes ← readPlanes? scan src
  let channels ←
    match scan.components.length with
    | 1 => some Channels.grey
    | 3 => some Channels.rgb
    | _ => none
  let located := (scan.components.map ScanComponent.component).zip planes
  let format : PixelFormat := ⟨channels, .eight⟩
  let height := scan.frame.height
  let width := scan.frame.width
  pure
    { format := format
      height := height
      width := width
      bytes :=
        ⟨Array.ofFn fun i : Fin (height * width * format.pixelBytes) =>
          let pixel := i.val / format.pixelBytes
          imageByte scan located format.pixelBytes (pixel / width) (pixel % width)
            (i.val % format.pixelBytes)⟩
      size_eq := by simp [ByteArray.size] }

def bitLength (n : Nat) : Nat :=
  if n = 0 then 0 else Nat.log2 n + 1

def numberBits (count n : Nat) : List Bool :=
  (List.range count).map fun i => n.testBit (count - 1 - i)

/-- The bits that tell a number among those of its length. -/
def magnitudeBits (v : Int) : List Bool :=
  let bits := bitLength v.natAbs
  numberBits bits (if v < 0 then (v + (Nat.pow 2 bits : Nat) - 1).toNat else v.toNat)

/-- The symbols of the code for the faster waves: a skip and a length, the end of a block,
and a skip of sixteen. -/
def fastSymbols : List Nat :=
  0x00 :: 0xF0 :: (List.range 16).flatMap fun skip => (List.range 10).map fun i => skip * 16 + i + 1

def fastWord (symbol : Nat) : List Bool :=
  numberBits 8 (fastSymbols.idxOf symbol)

def slowWord (length : Nat) : List Bool :=
  numberBits 4 length

/-- The words for the faster waves, after `skip` waves of weight zero. -/
def fastBits : Nat → List Int → List Bool
  | 0, [] => []
  | _, [] => fastWord 0x00
  | skip, v :: rest =>
      if v = 0 then fastBits (skip + 1) rest
      else
        (List.replicate (skip / 16) (fastWord 0xF0)).flatten ++
          fastWord (skip % 16 * 16 + bitLength v.natAbs) ++ magnitudeBits v ++ fastBits 0 rest

/-- The words of a block, given the slowest weight of the block before. -/
def blockBits (weights : Array Int) (previous : Int) : List Bool :=
  let stored := zigzag.toList.map fun i => (weights[i]?).getD 0
  match stored with
  | [] => []
  | slowest :: rest =>
      let change := slowest - previous
      slowWord (bitLength change.natAbs) ++ magnitudeBits change ++ fastBits 0 rest

/-- The bytes of words, filled up with ones; a zero byte follows each byte of ones. The bytes
before are given latest first. -/
def wordBytes : Nat → List Bool → List UInt8 → List UInt8
  | 0, _, done => done.reverse
  | _, [], done => done.reverse
  | fuel + 1, bits, done =>
      let next := bits.take 8
      let filled := next ++ List.replicate (8 - next.length) true
      let value := filled.foldl (fun (n : Nat) b => 2 * n + b.toNat) 0
      wordBytes fuel (bits.drop 8)
        (if value = 255 then 0x00 :: 0xFF :: done else UInt8.ofNat value :: done)

def segment (marker : UInt8) (bytes : List UInt8) : List UInt8 :=
  0xFF :: marker :: (Bytes.encode .big 2 (bytes.length + 2) ++ bytes)

def imageBlock (image : Image) (component unit : Nat) : Array Int :=
  let channels := image.format.channels.count
  let unitsAcross := (image.width + 7) / 8
  block8 fun y x =>
    let row := min (unit / unitsAcross * 8 + y) (image.height - 1)
    let col := min (unit % unitsAcross * 8 + x) (image.width - 1)
    let value (i : Nat) : Int :=
      (Bytes.atD image.bytes ((row * image.width + col) * channels + i)).toNat
    if channels = 1 then value 0 - 128
    else fromColour (value 0) (value 1) (value 2) component - 128

/-- The words of all blocks, unit by unit; `previous` holds the slowest weights of the unit
before. -/
def scanBits (image : Image) (components : Nat) : List Nat → List Int → List Bool
  | [], _ => []
  | unit :: rest, previous =>
      let weights := (List.range components).map fun c => analyse (imageBlock image c unit)
      (weights.zip previous).flatMap (fun p => blockBits p.1 p.2) ++
        scanBits image components rest (weights.map fun w => at8 w 0 0)

def writePicture? (image : Image) : Option ByteArray :=
  let components := image.format.channels.count
  if (components = 1 ∨ components = 3) ∧ image.format.depth = .eight ∧
      0 < image.height ∧ image.height < 65536 ∧ 0 < image.width ∧ image.width < 65536 then
    let units := (image.width + 7) / 8 * ((image.height + 7) / 8)
    let bits := scanBits image components (List.range units) (List.replicate components 0)
    let slowCounts : List UInt8 := (List.range 16).map fun i => if i = 3 then 12 else 0
    let fastCounts : List UInt8 := (List.range 16).map fun i => if i = 7 then 162 else 0
    let bytes :=
      [0xFF, 0xD8] ++
        segment 0xDB (0 :: List.replicate 64 1) ++
        segment 0xC0
          ([8] ++ Bytes.encode .big 2 image.height ++ Bytes.encode .big 2 image.width ++
            [UInt8.ofNat components] ++
            (List.range components).flatMap fun c => [UInt8.ofNat (c + 1), 0x11, 0]) ++
        segment 0xC4 ([0x00] ++ slowCounts ++ (List.range 12).map UInt8.ofNat) ++
        segment 0xC4 ([0x10] ++ fastCounts ++ fastSymbols.map UInt8.ofNat) ++
        segment 0xDA
          ([UInt8.ofNat components] ++
            ((List.range components).flatMap fun c => [UInt8.ofNat (c + 1), 0x00]) ++
            [0, 63, 0]) ++
        wordBytes bits.length bits [] ++ [0xFF, 0xD9]
    some ⟨bytes.toArray⟩
  else
    none

end Jpeg
end TileAudit
