import TileAudit.Image.Basic

/-!
# The library for images

Image files are decoded and encoded by a library. The bytes of a file alone tell what image it
holds, if it holds one; the name of a file that is to be written tells in which format.
-/

namespace TileAudit

class ImageCodec where
  decode? : ByteArray → Option Image
  /-- The encoder of the format that a file name asks for, or why there is none. -/
  encoderFor : String → Except String (Image → Except String ByteArray)

end TileAudit
