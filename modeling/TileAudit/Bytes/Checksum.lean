/-!
# Checksums

The two checksums that packed images carry: the cyclic redundancy check of 32 bits,
and the pair of sums modulo 65521.
-/

namespace TileAudit
namespace Checksum

def crcBit (c : UInt32) : UInt32 :=
  if c &&& 1 = 1 then (0xEDB88320 : UInt32) ^^^ (c >>> 1) else c >>> 1

def crcByte (n : Nat) : UInt32 :=
  (List.range 8).foldl (fun c _ => crcBit c) (UInt32.ofNat n)

def crcTable : Array UInt32 :=
  Array.ofFn fun n : Fin 256 => crcByte n.val

def crc32 (bytes : ByteArray) : UInt32 :=
  let step (c : UInt32) (b : UInt8) : UInt32 :=
    (crcTable[((c ^^^ b.toUInt32) &&& 0xFF).toNat]?).getD 0 ^^^ (c >>> 8)
  bytes.data.foldl step 0xFFFFFFFF ^^^ 0xFFFFFFFF

def adler32 (bytes : ByteArray) : Nat :=
  let sums := bytes.data.foldl
    (fun (s : Nat × Nat) b =>
      let a := (s.1 + b.toNat) % 65521
      (a, (s.2 + a) % 65521))
    (1, 0)
  sums.2 * 65536 + sums.1

end Checksum
end TileAudit
