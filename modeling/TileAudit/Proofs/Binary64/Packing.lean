import Mathlib

/-!
# Bits of binary64 numbers

A number that has been unpacked is in canonical form, and a number in canonical form survives
packing.
-/

namespace TileAudit
namespace Binary64

open Float.Model Float.Model.UnpackedFloat

/-- The significand and the exponent of a number in binary64: the significand has 53 bits unless
the exponent is the least one. -/
structure Fits (m : Nat) (e : Int) : Prop where
  small : m < 2 ^ 53
  least : -1074 ≤ e
  most : e ≤ 971
  full : 2 ^ 52 ≤ m ∨ e = -1074

def IsCanonical : UnpackedFloat → Prop
  | .finite _ m e _ => Fits m e
  | _ => True

theorem toNat_implicit_append {n : Nat} (significand : BitVec n) :
    (1#1 ++ significand).toNat = 2 ^ n + significand.toNat := by
  rw [BitVec.toNat_append, ← Nat.shiftLeft_add_eq_or_of_lt significand.isLt]
  simp [Nat.shiftLeft_eq]

theorem unpack_packComponents {s : Sign} {exponent : BitVec Format.binary64.exponentBits}
    {significand : BitVec Format.binary64.mantissaBitsWithoutImplicit} :
    UnpackedFloat.unpack Format.binary64
        (packComponents Format.binary64 s exponent significand) =
      if exponent = -1#_ then
        if significand = 0#_ then .infinity s else .notANumber
      else if exponent = 0#_ then
        if h : significand = 0#_ then .zero s
        else .finite s significand.toNat (-1074) (by
          simpa [BitVec.toNat_pos, BitVec.pos_iff_ne_zero] using h)
      else
        .finite s (1#1 ++ significand).toNat ((exponent.toNat : Int) - 1075) (by
          rw [toNat_implicit_append]
          exact Nat.add_pos_left (Nat.two_pow_pos _) _) := by
  unfold UnpackedFloat.unpack
  simp only [unpackMantissa_packComponents, unpackExponent_packComponents,
    unpackSign_packComponents, Sign.ofBitVec_toBitVec]
  by_cases hall : exponent = -1#_
  · rw [if_pos hall, if_pos hall]
  · rw [if_neg hall, if_neg hall]
    by_cases hzero : exponent = 0#_
    · rw [if_pos hzero, if_pos hzero]
      rw [hzero]
      rfl
    · rw [if_neg hzero, if_neg hzero]
      rfl

/-!
## Packing and unpacking

Two kinds of numbers are told apart: those whose significand is full, and those whose exponent is
the least one. The first bit of a full significand is not stored.
-/

theorem fits_implicit_append {exponent : BitVec Format.binary64.exponentBits}
    {significand : BitVec Format.binary64.mantissaBitsWithoutImplicit} (hall : exponent ≠ -1#_)
    (hnone : exponent ≠ 0#_) :
    Fits (1#1 ++ significand).toNat ((exponent.toNat : Int) - 1075) ∧
      2 ^ 52 ≤ (1#1 ++ significand).toNat := by
  have hsignificand : significand.toNat < 2 ^ 52 := significand.isLt
  have hexponent : exponent.toNat < 2 ^ 11 := exponent.isLt
  have hlow : exponent.toNat ≠ 0 := fun h => hnone (BitVec.eq_of_toNat_eq h)
  have hhigh : exponent.toNat ≠ 2047 := fun h => hall (BitVec.eq_of_toNat_eq h)
  have hfull : (1#1 ++ significand).toNat = 2 ^ 52 + significand.toNat :=
    toNat_implicit_append significand
  exact ⟨⟨by omega, by omega, by omega, Or.inl (by omega)⟩, by omega⟩

theorem isCanonical_unpack (b : BitVec Format.binary64.numBits) :
    IsCanonical (UnpackedFloat.unpack Format.binary64 b) := by
  rw [← packComponents_unpackSign_unpackExponent_unpackMantissa b, unpack_packComponents]
  have hsignificand : (unpackMantissa b).toNat < 2 ^ 52 := (unpackMantissa b).isLt
  by_cases hall : unpackExponent b = -1#_
  · rw [if_pos hall]
    by_cases hzero : unpackMantissa b = 0#_
    · rw [if_pos hzero]
      trivial
    · rw [if_neg hzero]
      trivial
  rw [if_neg hall]
  by_cases hnone : unpackExponent b = 0#_
  · rw [if_pos hnone]
    by_cases hzero : unpackMantissa b = 0#_
    · rw [dif_pos hzero]
      trivial
    · rw [dif_neg hzero]
      exact ⟨by omega, by omega, by omega, Or.inr rfl⟩
  · rw [if_neg hnone]
    exact (fits_implicit_append hall hnone).1

theorem log2_of_full {m : Nat} (hfull : 2 ^ 52 ≤ m) (hsmall : m < 2 ^ 53) : m.log2 = 52 := by
  rw [Nat.log2_eq_iff (by omega)]
  exact ⟨hfull, hsmall⟩

theorem log2_of_not_full {m : Nat} (h : m < 2 ^ 52) : m.log2 < 52 := by
  by_cases hm : m = 0
  · rw [hm]
    decide
  · exact (Nat.log2_lt hm).mpr h

theorem pack_full {s : Sign} {m : Nat} {e : Int} (hm : 0 < m) (h : Fits m e)
    (hfull : 2 ^ 52 ≤ m) :
    UnpackedFloat.pack Format.binary64 (.finite s m e hm) =
      packComponents Format.binary64 s (BitVec.ofNat _ (e + 1075).toNat) (BitVec.ofNat _ m) := by
  have hlog := log2_of_full hfull h.small
  have hleast := h.least
  have hmost := h.most
  unfold UnpackedFloat.pack
  have hbias : (e + (Format.binary64.exponentBias : Int) +
      (Format.binary64.mantissaBitsWithoutImplicit : Int)).toNat = (e + 1075).toNat := by
    show (e + 1023 + 52).toNat = _
    congr 1
    omega
  simp only [hbias, hlog]
  rw [if_neg (show ¬ 2 ^ 11 ≤ (e + 1075).toNat + 1 by omega),
    if_pos (show 52 + 1 = Format.binary64.mantissaBits from rfl)]

theorem pack_not_full {s : Sign} {m : Nat} (hm : 0 < m) (hnot : m < 2 ^ 52) :
    UnpackedFloat.pack Format.binary64 (.finite s m (-1074) hm) =
      packComponents Format.binary64 s 0#_ (BitVec.ofNat _ m) := by
  have hlog := log2_of_not_full hnot
  unfold UnpackedFloat.pack
  have hbits : ¬ m.log2 + 1 = Format.binary64.mantissaBits := by
    show ¬ m.log2 + 1 = 53
    omega
  rw [if_neg (by decide), if_neg hbits]

theorem unpack_pack {u : UnpackedFloat} (h : IsCanonical u) :
    UnpackedFloat.unpack Format.binary64 (UnpackedFloat.pack Format.binary64 u) = u := by
  cases u with
  | notANumber => rfl
  | infinity s =>
      cases s with
      | negative => rfl
      | positive => rfl
  | zero s =>
      cases s with
      | negative => rfl
      | positive => rfl
  | finite s m e hm =>
      have hsmall := h.small
      have hleast := h.least
      have hmost := h.most
      by_cases hfull : 2 ^ 52 ≤ m
      · have hexponent : (BitVec.ofNat 11 (e + 1075).toNat).toNat = (e + 1075).toNat := by
          rw [BitVec.toNat_ofNat, Nat.mod_eq_of_lt (by omega)]
        have hsignificand : (1#1 ++ BitVec.ofNat 52 m).toNat = m := by
          rw [toNat_implicit_append, BitVec.toNat_ofNat]
          omega
        have hall : BitVec.ofNat 11 (e + 1075).toNat ≠ -1#11 := by
          intro hall
          rw [hall] at hexponent
          have hmax : (-1#11).toNat = 2047 := by decide
          omega
        have hnone : BitVec.ofNat 11 (e + 1075).toNat ≠ 0#11 := by
          intro hnone
          rw [hnone, BitVec.toNat_zero] at hexponent
          omega
        rw [pack_full hm h hfull, unpack_packComponents, if_neg hall, if_neg hnone]
        simp only [hexponent, hsignificand, UnpackedFloat.finite.injEq, true_and]
        omega
      · have he := h.full.resolve_left hfull
        have hsignificand : (BitVec.ofNat 52 m).toNat = m := by
          rw [BitVec.toNat_ofNat]
          omega
        have hzero : BitVec.ofNat 52 m ≠ 0#52 := by
          intro hzero
          rw [hzero, BitVec.toNat_zero] at hsignificand
          omega
        subst he
        rw [pack_not_full hm (by omega), unpack_packComponents, if_neg (by decide), if_pos rfl,
          dif_neg hzero]
        simp only [hsignificand]

end Binary64
end TileAudit
