import TileAudit.Bytes.Order

/-!
# Stored blocks

Packing bytes without making them fewer: each block is a header and the bytes as they are.
-/

namespace TileAudit
namespace Deflate

def storedLimit : Nat := 65535

def storedBlock (last : Bool) (bytes : List UInt8) : List UInt8 :=
  (if last then 1 else 0) ::
    (Bytes.littleEndian 2 bytes.length ++ Bytes.littleEndian 2 (0xFFFF - bytes.length) ++ bytes)

/-- Bytes as stored blocks; the last block has at most as many bytes as the others. -/
def storedBlocks (bytes : List UInt8) : List UInt8 :=
  if _h : bytes.length ≤ storedLimit then storedBlock true bytes
  else
    storedBlock false (bytes.take storedLimit) ++ storedBlocks (bytes.drop storedLimit)
termination_by bytes.length
decreasing_by
  simp only [List.length_drop, storedLimit] at *
  omega

end Deflate
end TileAudit
