import TileAudit.GeoTiff.Codec
import TileAudit.Tiff.Strips
import TileAudit.Tiff.Writer

/-!
# Tagged image files as raster files

A library for raster files: pictures are written in one strip, and files are read whatever their
byte order, their strips and their way of packing are. Every place in a file has to be stated in 32
bits, so there are no larger files.
-/

namespace TileAudit
namespace Tiff

def tagFields (picture : GeoTiff.Picture) : List (Tag × Value) :=
  [(.pixelScale, .doubles picture.scale),
    (.tiepoint, .doubles picture.tiepoint),
    (.geoKeys, .shorts (picture.keys.map UInt16.toNat))]

def formOf (picture : GeoTiff.Picture) : ImageForm where
  width := picture.width
  height := picture.height
  samples := tileBands
  bits := 8
  photometric := 2
  form := 1
  compression := picture.compression

/-- The number of bytes that a place in a file can be stated for. -/
def sizeLimit : Nat := Numeral.limit32 + 1

def encode (picture : GeoTiff.Picture) : Except String ByteArray :=
  let file := write .little (formOf picture) picture.samples (tagFields picture)
  if file.size < sizeLimit then .ok file else .error "the file is too large"

def coloursOf : ColourKind → GeoTiff.Colours
  | .rgb 8 => .rgb8
  | .rgba 8 => .rgba8
  | kind => .other kind.name

def doublesOf? (dir : Directory) (src : ByteArray) (tag : Tag) : Option (List Float) := do
  let field ← dir.field? tag
  dir.doubles? src field

def shortsOf? (dir : Directory) (src : ByteArray) (tag : Tag) : Option (List UInt16) := do
  let field ← dir.field? tag
  let values ← dir.naturals? src field
  guard (values.all (· < 0x10000))
  return values.map UInt16.ofNat

def pixelsOf (layout : Layout) (src : ByteArray) : Except String GeoTiff.Pixels :=
  if layout.form = 1 ∨ layout.form = 2 then
    match readRows? layout src with
    | none => .error "unreadable strip"
    | some rows => .ok (if layout.form = 2 then .other else .bytes rows)
  else
    .error "unsupported sample format"

/-- What the directory of a file tells, where its samples lie as a layout says. -/
def describe (dir : Directory) (layout : Layout) (src : ByteArray) : GeoTiff.Opened where
  width := layout.width
  height := layout.height
  colours := .ok (coloursOf layout.colour)
  scale? := doublesOf? dir src .pixelScale
  tiepoint? := doublesOf? dir src .tiepoint
  keys? := shortsOf? dir src .geoKeys
  pixels := pixelsOf layout src

def opened (src : ByteArray) : Except String GeoTiff.Opened :=
  match readDirectory? src with
  | none => .error "invalid header or directory"
  | some dir =>
      match dir.layout? src with
      | none => .error "invalid layout"
      | some layout => .ok (describe dir layout src)

end Tiff

instance : TiffCodec where
  encode := Tiff.encode
  opened := Tiff.opened

end TileAudit
