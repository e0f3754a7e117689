/-!
# Images

Decoded images of any of the usual pixel formats. The samples of a pixel stand side by
side; a sample of more than one byte has its most significant byte first.
-/

namespace TileAudit

inductive Channels where
  | grey
  | greyAlpha
  | rgb
  | rgba
deriving DecidableEq, Repr

namespace Channels

def count : Channels → Nat
  | grey => 1
  | greyAlpha => 2
  | rgb => 3
  | rgba => 4

def name : Channels → String
  | grey => "L"
  | greyAlpha => "La"
  | rgb => "Rgb"
  | rgba => "Rgba"

end Channels

inductive Depth where
  /-- A whole number of eight bits. -/
  | eight
  /-- A whole number of sixteen bits. -/
  | sixteen
  /-- A floating-point number of 32 bits. -/
  | float
deriving DecidableEq, Repr

namespace Depth

def bytes : Depth → Nat
  | eight => 1
  | sixteen => 2
  | float => 4

def name : Depth → String
  | eight => "8"
  | sixteen => "16"
  | float => "32F"

end Depth

structure PixelFormat where
  channels : Channels
  depth : Depth
deriving DecidableEq, Repr

namespace PixelFormat

def name (format : PixelFormat) : String :=
  format.channels.name ++ format.depth.name

def pixelBytes (format : PixelFormat) : Nat :=
  format.channels.count * format.depth.bytes

def rgb8 : PixelFormat :=
  ⟨.rgb, .eight⟩

end PixelFormat

structure Image where
  format : PixelFormat
  height : Nat
  width : Nat
  bytes : ByteArray
  size_eq : bytes.size = height * width * format.pixelBytes

/-- The image with the given bytes, if they fill its shape. -/
def Image.ofBytes? (format : PixelFormat) (height width : Nat) (bytes : ByteArray) :
    Option Image :=
  if h : bytes.size = height * width * format.pixelBytes then
    some ⟨format, height, width, bytes, h⟩
  else
    none

end TileAudit
