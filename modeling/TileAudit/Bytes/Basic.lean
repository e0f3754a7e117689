/-!
# Bytes at a place

Reading single bytes and runs of bytes from a block. A read past the end has no answer. The main
statement says that a byte is read as if the block were an array.
-/

namespace TileAudit
namespace Bytes

def at? (src : ByteArray) (place : Nat) : Option UInt8 :=
  if h : place < src.size then some (src.get place h) else none

/-- The byte at a place, or zero where there is none. -/
def atD (src : ByteArray) (place : Nat) : UInt8 :=
  (at? src place).getD 0

def between (src : ByteArray) (start stop : Nat) : Array UInt8 :=
  (src.extract start stop).data

def slice? (src : ByteArray) (start count : Nat) : Option (List UInt8) :=
  if start + count ≤ src.size then some (between src start (start + count)).toList
  else none

theorem at?_eq_getElem? (src : ByteArray) (place : Nat) : at? src place = src.data[place]? := by
  unfold at?
  by_cases h : place < src.size
  · rw [dif_pos h]
    exact (Array.getElem?_eq_getElem h).symm
  · rw [dif_neg h]
    exact (Array.getElem?_eq_none (Nat.le_of_not_lt h)).symm

end Bytes
end TileAudit
