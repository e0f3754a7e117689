import TileAudit.Bytes.Bits

/-!
# Reading packed bits

Bits that were packed are read back one by one, and so are the numbers that they make up.
-/

namespace TileAudit
namespace Bits

theorem testBit_foldl_range (bits : Nat → Bool) {count k : Nat} (hk : k < count) :
    Nat.testBit ((List.range count).foldl (fun value i => 2 * value + (bits i).toNat) 0)
      (count - 1 - k) = bits k := by
  induction count with
  | zero => cases hk
  | succ count ih =>
      rw [List.range_succ, List.foldl_append]
      show Nat.testBit (2 * _ + (bits count).toNat) _ = _
      have hbit : (bits count).toNat < 2 := Bool.toNat_lt (bits count)
      by_cases hlast : k = count
      · rw [hlast, Nat.add_sub_cancel, Nat.sub_self, Nat.testBit_zero, Nat.mul_add_mod]
        cases bits count with
        | false => rfl
        | true => rfl
      · have hplace : count + 1 - 1 - k = count - 1 - k + 1 := by omega
        rw [hplace, Nat.testBit_succ, Nat.mul_add_div (by omega), Nat.div_eq_of_lt hbit,
          Nat.add_zero]
        exact ih (by omega)

theorem testBit_ofNat (n : Nat) {k : Nat} (hk : k < 8) :
    (UInt8.ofNat n).toNat.testBit k = n.testBit k := by
  have hmod := Nat.testBit_mod_two_pow n 8 k
  rw [decide_eq_true hk, Bool.true_and] at hmod
  rw [UInt8.toNat_ofNat', ← hmod]

theorem bit?_high_of_at? {src : ByteArray} {position : Nat} {b : UInt8}
    (h : Bytes.at? src (position / 8) = some b) :
    bit? .high src position = some (b.toNat.testBit (7 - position % 8)) := by
  unfold bit?
  rw [h]

theorem bit?_low_of_at? {src : ByteArray} {place k : Nat} {b : UInt8}
    (h : Bytes.at? src place = some b) (hk : k < 8) :
    bit? .low src (8 * place + k) = some (b.toNat.testBit k) := by
  have hplace : (8 * place + k) / 8 = place := by omega
  have hbit : (8 * place + k) % 8 = k := by omega
  unfold bit?
  rw [hplace, h, hbit]

theorem bit?_packHigh (bits : Nat → Bool) {count position : Nat} (h : position < 8 * count) :
    bit? .high (packHigh count bits) position = some (bits position) := by
  have hbyte : position / 8 < count := by omega
  have hsplit : 8 * (position / 8) + position % 8 = position := by omega
  have hread : Bytes.at? (packHigh count bits) (position / 8) =
      some (UInt8.ofNat ((List.range 8).foldl
        (fun value k => 2 * value + (bits (8 * (position / 8) + k)).toNat) 0)) := by
    rw [Bytes.at?_eq_getElem?]
    unfold packHigh
    rw [Array.getElem?_ofFn, dif_pos hbyte]
  have hbit := testBit_foldl_range (fun k => bits (8 * (position / 8) + k))
    (Nat.mod_lt position (by decide : 0 < 8))
  rw [bit?_high_of_at? hread, testBit_ofNat _ (by omega)]
  rw [hsplit] at hbit
  rw [← hbit]

theorem size_packHigh (count : Nat) (bits : Nat → Bool) : (packHigh count bits).size = count := by
  simp [packHigh, ByteArray.size]

theorem mod_pow_succ_eq (n count : Nat) :
    n % Nat.pow 2 (count + 1) = (n.testBit count).toNat * Nat.pow 2 count + n % Nat.pow 2 count := by
  have hmod : n % Nat.pow 2 (count + 1) =
      n % Nat.pow 2 count + Nat.pow 2 count * (n / Nat.pow 2 count % 2) := Nat.mod_pow_succ
  rw [hmod, Nat.toNat_testBit, Nat.mul_comm, Nat.add_comm]
  rfl

theorem highNumber?_eq {src : ByteArray} {n count position : Nat}
    (h : ∀ i, i < count → bit? .high src (position + i) = some (n.testBit (count - 1 - i)))
    (value : Nat) :
    highNumber? src count position value =
      some (value * Nat.pow 2 count + n % Nat.pow 2 count) := by
  induction count generalizing position value with
  | zero =>
      show some value = some (value * 1 + n % 1)
      rw [Nat.mul_one, Nat.mod_one, Nat.add_zero]
  | succ count ih =>
      have hfirst : bit? .high src position = some (n.testBit count) := h 0 (Nat.zero_lt_succ count)
      have hrest : ∀ i, i < count →
          bit? .high src (position + 1 + i) = some (n.testBit (count - 1 - i)) := by
        intro i hi
        have hbit := h (i + 1) (Nat.succ_lt_succ hi)
        have hplace : position + 1 + i = position + (i + 1) := by omega
        have hindex : count + 1 - 1 - (i + 1) = count - 1 - i := by omega
        rw [hplace, hbit, hindex]
      have hpower : Nat.pow 2 (count + 1) = 2 * Nat.pow 2 count := by
        rw [Nat.mul_comm]
        rfl
      rw [highNumber?, hfirst]
      show highNumber? src count (position + 1) (2 * value + (n.testBit count).toNat) = _
      rw [ih hrest, mod_pow_succ_eq, Nat.add_mul, hpower, Nat.add_assoc, Nat.mul_comm 2 value,
        Nat.mul_assoc]

theorem lowNumber?_one {src : ByteArray} {position : Nat} {b : Bool}
    (h : bit? .low src position = some b) : lowNumber? src 1 position = some b.toNat := by
  rw [lowNumber?, h]
  rfl

theorem lowNumber?_two {src : ByteArray} {position : Nat} {b b' : Bool}
    (h : bit? .low src position = some b) (h' : bit? .low src (position + 1) = some b') :
    lowNumber? src 2 position = some (b.toNat + 2 * b'.toNat) := by
  rw [lowNumber?, h, lowNumber?_one h']

end Bits
end TileAudit
