import TileAudit.FileTree.PathText
import TileAudit.Image.Codec
import TileAudit.Jpeg.Picture
import TileAudit.Png.Picture
import TileAudit.Tiff.Picture

/-!
# Image files

The format of an image file that is read is told by how it begins; the format of one that is
written is chosen by the suffix of its name.
-/

namespace TileAudit
namespace Image

/-- Reads an image file of any of three formats; `none` for everything else and for broken files. -/
def ofFile? (src : ByteArray) : Option Image :=
  match (Bytes.between src 0 4).toList with
  | [0x89, 0x50, 0x4E, 0x47] => Png.readPicture? src
  | [0x49, 0x49, 0x2A, 0x00] | [0x4D, 0x4D, 0x00, 0x2A] => Tiff.readPicture? src
  | 0xFF :: 0xD8 :: 0xFF :: _ => Jpeg.readPicture? src
  | _ => none

inductive FileFormat where
  | png
  | tiff
  | jpeg
  /-- A known format that is not written. -/
  | unsupported (name : String)
deriving DecidableEq, Repr

def suffixes : List (String × FileFormat) :=
  [("png", .png), ("apng", .png), ("tif", .tiff), ("tiff", .tiff), ("jpg", .jpeg),
    ("jpeg", .jpeg), ("jfif", .jpeg), ("avif", .unsupported "Avif"), ("gif", .unsupported "Gif"),
    ("webp", .unsupported "WebP"), ("tga", .unsupported "Tga"), ("dds", .unsupported "Dds"),
    ("bmp", .unsupported "Bmp"), ("ico", .unsupported "Ico"), ("hdr", .unsupported "Hdr"),
    ("exr", .unsupported "OpenExr"), ("pbm", .unsupported "Pnm"), ("pam", .unsupported "Pnm"),
    ("ppm", .unsupported "Pnm"), ("pgm", .unsupported "Pnm"), ("pnm", .unsupported "Pnm"),
    ("ff", .unsupported "Farbfeld"), ("qoi", .unsupported "Qoi"), ("pcx", .unsupported "Pcx")]

/-- The format that a file name asks for, or why it asks for none. -/
def formatOfName (path : String) : Except String FileFormat :=
  match PathText.extension? path with
  | none => .error "The image format could not be determined"
  | some suffix =>
      match suffixes.lookup (String.ofList (suffix.toList.map Char.toLower)) with
      | some format => .ok format
      | none =>
          .error ("The file extension `." ++ Text.quoted suffix ++
            "` was not recognized as an image format")

def toFile (image : Image) (format : FileFormat) : Except String ByteArray :=
  match format with
  | .png =>
      match Png.writePicture? image with
      | some file => .ok file
      | none => .error "Format error encoding Png:\nZero width not allowed"
  | .jpeg =>
      match Jpeg.writePicture? image with
      | some file => .ok file
      | none => .error "Format error encoding Jpeg"
  | .tiff =>
      if image.height = 0 ∨ image.width = 0 then .error "Format error encoding Tiff"
      else .ok (Tiff.writePicture image)
  | .unsupported name => .error ("The image format `" ++ name ++ "` is not supported")

end Image

instance : ImageCodec where
  decode? := Image.ofFile?
  encoderFor path := (Image.formatOfName path).map fun format image => image.toFile format

end TileAudit
