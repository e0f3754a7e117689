import TileAudit.Bytes.Checksum
import TileAudit.Deflate.Inflate
import TileAudit.Deflate.Stored

/-!
# Packed data with a header and a checksum

The container around packed blocks: two bytes of header, the blocks, and the pair of
sums of the unpacked bytes. A reader looks at the header and takes the blocks; the
checksum is written for others.
-/

namespace TileAudit
namespace Zlib

/-- The header of packed data: the method, a window of no more than 32768 bytes, no preset
dictionary, and a check of the two bytes. -/
def isHeader (method flags : Nat) : Bool :=
  method % 16 = 8 && method / 16 ≤ 7 && (method * 256 + flags) % 31 = 0 && flags / 32 % 2 = 0

/-- Unpacks at most about `limit` bytes. -/
def unpack (src : ByteArray) (limit : Nat) : Deflate.Unpacked :=
  match Bytes.at? src 0, Bytes.at? src 1 with
  | some method, some flags =>
      if isHeader method.toNat flags.toNat then Deflate.inflate src 2 limit
      else ⟨ByteArray.empty, .corrupt⟩
  | _, _ => ⟨ByteArray.empty, .truncated⟩

def pack (bytes : ByteArray) : List UInt8 :=
  0x78 :: 0x01 :: Deflate.storedBlocks bytes.data.toList ++
    Bytes.encode .big 4 (Checksum.adler32 bytes)

end Zlib
end TileAudit
