import TileAudit.Bytes.Basic

/-!
# Numbers in bytes

Natural numbers of a fixed number of bytes, in either byte order, and reading them
at a place in a block of bytes. A read past the end has no answer.
-/

namespace TileAudit

inductive ByteOrder where
  | little
  | big
deriving DecidableEq, Repr

namespace Bytes

/-- The `count` low bytes of a number, least significant first. -/
def littleEndian : Nat → Nat → List UInt8
  | 0, _ => []
  | count + 1, n => UInt8.ofNat n :: littleEndian count (n / 256)

def ofLittleEndian : List UInt8 → Nat
  | [] => 0
  | b :: rest => b.toNat + 256 * ofLittleEndian rest

def encode (order : ByteOrder) (count n : Nat) : List UInt8 :=
  match order with
  | .little => littleEndian count n
  | .big => (littleEndian count n).reverse

def decode (order : ByteOrder) (bytes : List UInt8) : Nat :=
  match order with
  | .little => ofLittleEndian bytes
  | .big => ofLittleEndian bytes.reverse

def number? (order : ByteOrder) (src : ByteArray) (start count : Nat) : Option Nat :=
  (slice? src start count).map (decode order)

@[simp]
theorem length_littleEndian (count n : Nat) : (littleEndian count n).length = count := by
  induction count generalizing n with
  | zero => rfl
  | succ count ih => simp [littleEndian, ih]

theorem ofLittleEndian_littleEndian {count n : Nat} (h : n < Nat.pow 256 count) :
    ofLittleEndian (littleEndian count n) = n := by
  induction count generalizing n with
  | zero =>
      have : n = 0 := by simpa using h
      simp [littleEndian, ofLittleEndian, this]
  | succ count ih =>
      have hdiv : n / 256 < Nat.pow 256 count := by
        apply (Nat.div_lt_iff_lt_mul (by decide : 0 < 256)).2
        simpa [Nat.pow_succ] using h
      simp only [littleEndian, ofLittleEndian, UInt8.toNat_ofNat', ih hdiv]
      omega

@[simp]
theorem length_encode (order : ByteOrder) (count n : Nat) :
    (encode order count n).length = count := by
  cases order <;> simp [encode]

theorem decode_encode {order : ByteOrder} {count n : Nat} (h : n < Nat.pow 256 count) :
    decode order (encode order count n) = n := by
  cases order <;> simp [decode, encode, ofLittleEndian_littleEndian h]

end Bytes
end TileAudit
