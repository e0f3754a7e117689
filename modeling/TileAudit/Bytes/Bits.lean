import TileAudit.Bytes.Basic

/-!
# Bits in bytes

Reading single bits and short numbers at a bit position, with the bits of a byte taken
from either end.
-/

namespace TileAudit
namespace Bits

inductive First where
  | low
  | high
deriving DecidableEq, Repr

def bit? (first : First) (src : ByteArray) (position : Nat) : Option Bool :=
  match Bytes.at? src (position / 8) with
  | none => none
  | some b =>
      match first with
      | .low => some (b.toNat.testBit (position % 8))
      | .high => some (b.toNat.testBit (7 - position % 8))

def lowNumber? (src : ByteArray) : Nat → Nat → Option Nat
  | 0, _ => some 0
  | count + 1, position =>
      match bit? .low src position with
      | none => none
      | some b =>
          match lowNumber? src count (position + 1) with
          | none => none
          | some rest => some (b.toNat + 2 * rest)

/-- The number of `count` bits whose most significant bit comes first, read onto `value`. -/
def highNumber? (src : ByteArray) : Nat → Nat → Nat → Option Nat
  | 0, _, value => some value
  | count + 1, position, value =>
      match bit? .high src position with
      | none => none
      | some b => highNumber? src count (position + 1) (2 * value + b.toNat)

/-- The bytes whose bits, most significant first, are the first `8 * count` values of a
sequence of bits. -/
def packHigh (count : Nat) (bits : Nat → Bool) : ByteArray :=
  ⟨Array.ofFn fun i : Fin count =>
    UInt8.ofNat ((List.range 8).foldl (fun value k => 2 * value + (bits (8 * i.val + k)).toNat) 0)⟩

end Bits
end TileAudit
