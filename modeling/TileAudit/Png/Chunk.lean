import TileAudit.Bytes.Checksum
import TileAudit.Bytes.Order

/-!
# Chunks

A chunked image file is a signature and a sequence of chunks, each with a length, a
name of four letters, its bytes and a check. A chunk whose name begins with a capital
letter is critical: without it the image cannot be read.
-/

namespace TileAudit
namespace Png

def signature : List UInt8 :=
  [0x89, 0x50, 0x4E, 0x47, 0x0D, 0x0A, 0x1A, 0x0A]

structure Chunk where
  name : List UInt8
  bytes : ByteArray
  /-- The check agrees with the name and the bytes. -/
  intact : Bool

def chunkName (name : String) : List UInt8 :=
  name.toUTF8.data.toList

namespace Chunk

/-- A chunk that must be understood. -/
def isCritical (chunk : Chunk) : Bool :=
  match chunk.name with
  | first :: _ => first.toNat < 0x60
  | [] => false

def read? (src : ByteArray) (place : Nat) : Option (Chunk × Nat) := do
  let length ← Bytes.number? .big src place 4
  let name ← Bytes.slice? src (place + 4) 4
  let check ← Bytes.number? .big src (place + 8 + length) 4
  let covered := src.extract (place + 4) (place + 8 + length)
  let bytes := src.extract (place + 8) (place + 8 + length)
  return (⟨name, bytes, (Checksum.crc32 covered).toNat = check⟩, place + 12 + length)

def write (name : String) (bytes : List UInt8) : List UInt8 :=
  let covered := chunkName name ++ bytes
  Bytes.encode .big 4 bytes.length ++ covered ++
    Bytes.encode .big 4 (Checksum.crc32 ⟨covered.toArray⟩).toNat

end Chunk
end Png
end TileAudit
