import TileAudit.Proofs.Binary64.Rounding

/-!
# Operations on unpacked numbers

The sum, the difference, the product and the quotient of finite numbers are nearest to the
exact ones.
-/

namespace TileAudit
namespace Binary64

open Float.Model Float.Model.UnpackedFloat

theorem apply_eq (s : Sign) (m : Nat) : ((s.apply (m : ℤ) : ℤ) : ℚ) = signFactor s * m := by
  cases s with
  | negative =>
      show ((-(m : ℤ) : ℤ) : ℚ) = -1 * m
      push_cast
      ring
  | positive =>
      show (((m : ℤ) : ℤ) : ℚ) = 1 * m
      push_cast
      ring

theorem signFactor_neg (s : Sign) : signFactor (-s) = -signFactor s := by
  cases s with
  | negative => exact (neg_neg 1).symm
  | positive => rfl

theorem signFactor_mul (s s' : Sign) : signFactor (s * s') = signFactor s * signFactor s' := by
  cases s with
  | negative =>
      cases s' with
      | negative => exact (by norm_num : (1 : ℚ) = -1 * -1)
      | positive => exact (mul_one (-1 : ℚ)).symm
  | positive =>
      cases s' with
      | negative => exact (one_mul (-1 : ℚ)).symm
      | positive => exact (one_mul (1 : ℚ)).symm

theorem signFactor_div (s s' : Sign) : signFactor (s / s') = signFactor s / signFactor s' := by
  cases s with
  | negative =>
      cases s' with
      | negative => exact (div_self (by norm_num : (-1 : ℚ) ≠ 0)).symm
      | positive => exact (div_one (-1 : ℚ)).symm
  | positive =>
      cases s' with
      | negative => exact (by norm_num : (-1 : ℚ) = 1 / -1)
      | positive => exact (div_one (1 : ℚ)).symm

theorem decreaseExponent_value {m : Nat} {e t : ℤ} (h : t ≤ e) :
    ((decreaseExponent m e t).1 : ℚ) * 2 ^ t = m * 2 ^ e := by
  have hshift : (2 : ℚ) ^ e = 2 ^ (e - t).toNat * 2 ^ t := by
    rw [← zpow_natCast, ← zpow_add₀ (by norm_num), Int.toNat_of_nonneg (by omega)]
    congr 1
    ring
  show ((m <<< (e - t).toNat : Nat) : ℚ) * 2 ^ t = _
  rw [hshift, Nat.shiftLeft_eq]
  push_cast
  ring

theorem isNearest_self (q : ℚ) : IsNearest q q := by
  intro a _
  rw [sub_self, abs_zero]
  exact abs_nonneg _

/-!
## Sums and differences

A difference is a sum with the second number negated, so only sums are followed through the code.
-/

section

variable {u v : UnpackedFloat}

theorem add_spec (hu : IsReduced u) (hv : IsReduced v) :
    IsReduced (UnpackedFloat.add Format.binary64 u v) ∧
      IsNearest (value u + value v) (value (UnpackedFloat.add Format.binary64 u v)) := by
  cases u with
  | infinity s => exact hu.elim
  | notANumber => exact hu.elim
  | zero s =>
      cases v with
      | infinity s' => exact hv.elim
      | notANumber => exact hv.elim
      | zero s' =>
          have hzero : value (.zero s) + value (.zero s') = 0 := add_zero 0
          rw [hzero]
          cases s <;> cases s' <;> exact ⟨trivial, isNearest_self 0⟩
      | finite s' m' e' hm' =>
          refine ⟨hv, ?_⟩
          show IsNearest (0 + value (.finite s' m' e' hm')) (value (.finite s' m' e' hm'))
          rw [zero_add]
          exact isNearest_self _
  | finite s m e hm =>
      cases v with
      | infinity s' => exact hv.elim
      | notANumber => exact hv.elim
      | zero s' =>
          refine ⟨hu, ?_⟩
          show IsNearest (value (.finite s m e hm) + 0) (value (.finite s m e hm))
          rw [add_zero]
          exact isNearest_self _
      | finite s' m' e' hm' =>
          have hspec := normalize_spec
            (s.apply (decreaseExponent m e (min e e')).1 +
              s'.apply (decreaseExponent m' e' (min e e')).1) (min e e') .positive
          have hexact : (((s.apply (decreaseExponent m e (min e e')).1 +
              s'.apply (decreaseExponent m' e' (min e e')).1 : ℤ)) : ℚ) * 2 ^ (min e e') =
                value (.finite s m e hm) + value (.finite s' m' e' hm') := by
            rw [Int.cast_add, apply_eq, apply_eq, add_mul, mul_assoc, mul_assoc,
              decreaseExponent_value (min_le_left e e'), decreaseExponent_value (min_le_right e e')]
            rfl
          rw [hexact] at hspec
          exact hspec

theorem value_neg (u : UnpackedFloat) : value u.neg = -value u := by
  cases u with
  | infinity s => exact neg_zero.symm
  | notANumber => exact neg_zero.symm
  | zero s => exact neg_zero.symm
  | finite s m e hm =>
      show signFactor (-s) * (m * 2 ^ e) = -(signFactor s * (m * 2 ^ e))
      rw [signFactor_neg, neg_mul]

theorem isReduced_neg (hu : IsReduced u) : IsReduced u.neg := by
  cases u with
  | infinity s => exact hu.elim
  | notANumber => exact hu.elim
  | zero s => trivial
  | finite s m e hm => exact hu

theorem apply_neg (s : Sign) (i : ℤ) : (-s).apply i = -s.apply i := by
  cases s with
  | negative => exact (neg_neg i).symm
  | positive => rfl

theorem sub_eq_add (u v : UnpackedFloat) :
    UnpackedFloat.sub Format.binary64 u v = UnpackedFloat.add Format.binary64 u v.neg := by
  cases u with
  | notANumber => rfl
  | infinity s => cases v <;> rfl
  | zero s => cases v <;> rfl
  | finite s m e hm =>
      cases v with
      | notANumber => rfl
      | infinity s' => rfl
      | zero s' => rfl
      | finite s' m' e' hm' =>
          unfold UnpackedFloat.sub UnpackedFloat.add UnpackedFloat.neg
          simp only [apply_neg, Int.sub_eq_add_neg]

theorem sub_spec (hu : IsReduced u) (hv : IsReduced v) :
    IsReduced (UnpackedFloat.sub Format.binary64 u v) ∧
      IsNearest (value u - value v) (value (UnpackedFloat.sub Format.binary64 u v)) := by
  have hspec := add_spec hu (isReduced_neg hv)
  rw [value_neg, ← sub_eq_add_neg] at hspec
  rw [sub_eq_add]
  exact hspec

/-!
## Products and quotients

A product of two reduced significands has not been cut short. A quotient is computed with enough
further bits, and its remainder tells what is left of the fraction.
-/

theorem product_place {m m' : Nat} {e e' : ℤ} (hfull : 2 ^ 52 ≤ m ∨ e = -1074)
    (hfull' : 2 ^ 52 ≤ m' ∨ e' = -1074) (hm : 0 < m) (hm' : 0 < m') :
    e + e' ≤ max (((m * m').log2 : ℤ) + (e + e') - 52) (-1074) := by
  have hlog : 2 ^ 52 ≤ m * m' → 52 ≤ (m * m').log2 := fun h => (Nat.le_log2 (by omega)).mpr h
  rcases hfull with hfull | hfull
  · have hbits := hlog (Nat.le_trans hfull (Nat.le_mul_of_pos_right m hm'))
    omega
  · rcases hfull' with hfull' | hfull'
    · have hbits := hlog (Nat.le_trans hfull' (Nat.le_mul_of_pos_left m' hm))
      omega
    · omega

theorem mul_spec (hu : IsReduced u) (hv : IsReduced v) :
    IsReduced (UnpackedFloat.mul Format.binary64 u v) ∧
      IsNearest (value u * value v) (value (UnpackedFloat.mul Format.binary64 u v)) := by
  cases u with
  | infinity s => exact hu.elim
  | notANumber => exact hu.elim
  | zero s =>
      have hzero : value (.zero s) * value v = 0 := zero_mul _
      rw [hzero]
      cases v with
      | infinity s' => exact hv.elim
      | notANumber => exact hv.elim
      | zero s' => exact ⟨trivial, isNearest_self 0⟩
      | finite s' m' e' hm' => exact ⟨trivial, isNearest_self 0⟩
  | finite s m e hm =>
      cases v with
      | infinity s' => exact hv.elim
      | notANumber => exact hv.elim
      | zero s' =>
          have hzero : value (.finite s m e hm) * value (.zero s') = 0 := mul_zero _
          rw [hzero]
          exact ⟨trivial, isNearest_self 0⟩
      | finite s' m' e' hm' =>
          have hexact : ((m * 2 ^ e) * (m' * 2 ^ e') : ℚ) / 2 ^ (e + e') = ((m * m' : Nat) : ℚ) := by
            rw [zpow_add₀ (by norm_num)]
            push_cast
            field_simp
          have htruncates : Truncates (ExtendedMantissa.ofMantissaAndAccuracy (m * m') .exact)
              (((m * 2 ^ e) * (m' * 2 ^ e') : ℚ) / 2 ^ (e + e')) := by
            rw [hexact]
            exact truncates_exact _
          have hspec := roundWithAccuracy_spec (s * s') htruncates
            (product_place hu.2.2 hv.2.2 hm hm')
          have hsigned : signFactor (s * s') * ((m * 2 ^ e) * (m' * 2 ^ e')) =
              value (.finite s m e hm) * value (.finite s' m' e' hm') := by
            rw [signFactor_mul]
            show _ = signFactor s * (m * 2 ^ e) * (signFactor s' * (m' * 2 ^ e'))
            ring
          rw [hsigned] at hspec
          exact hspec

theorem truncates_quotient (n : Nat) {d : Nat} (hd : 0 < d) :
    Truncates (ExtendedMantissa.ofMantissaAndAccuracy (n / d) (accuracyOfFraction (n % d) d))
      ((n : ℚ) / d) := by
  have hdq : (0 : ℚ) < d := by exact_mod_cast hd
  have hsplit : (n : ℚ) / d = (n / d : Nat) + ((n % d : Nat) : ℚ) / d := by
    have hnat : ((d * (n / d) + n % d : Nat) : ℚ) = n := by exact_mod_cast Nat.div_add_mod n d
    rw [← hnat]
    push_cast
    field_simp
  have hone : ((n % d : Nat) : ℚ) / d < 1 := by
    rw [div_lt_one hdq]
    exact_mod_cast Nat.mod_lt n hd
  rw [hsplit]
  unfold accuracyOfFraction
  by_cases hzero : n % d = 0
  · rw [if_pos hzero, hzero, Nat.cast_zero, zero_div, add_zero]
    exact truncates_exact _
  rw [if_neg hzero]
  have hpos : 0 < ((n % d : Nat) : ℚ) / d := by
    have hrest : (0 : ℚ) < (n % d : Nat) := by exact_mod_cast Nat.pos_of_ne_zero hzero
    positivity
  -- The accuracy tells on which side of one half the fraction lies.
  rcases lt_trichotomy (2 * (n % d)) d with horder | horder | horder
  · have hhalf : ((n % d : Nat) : ℚ) / d < 1 / 2 := by
      rw [div_lt_div_iff₀ hdq (by norm_num)]
      have hcast : (2 * (n % d : Nat) : ℚ) < d := by exact_mod_cast horder
      linarith
    rw [compare_lt_iff_lt.mpr horder]
    apply truncates_of_lower
    · rfl
    · show ((n / d : Nat) : ℚ) ≤ _
      linarith
    · show _ < ((n / d : Nat) : ℚ) + 1 / 2
      linarith
    · show true = false ↔ _ = ((n / d : Nat) : ℚ)
      constructor
      · intro h
        cases h
      · intro h
        linarith
  · have hhalf : ((n % d : Nat) : ℚ) / d = 1 / 2 := by
      rw [div_eq_div_iff hdq.ne' (by norm_num)]
      have hcast : (2 * (n % d : Nat) : ℚ) = d := by exact_mod_cast horder
      linarith
    rw [compare_eq_iff_eq.mpr horder, hhalf]
    apply truncates_of_upper
    · rfl
    · exact le_refl _
    · show _ < ((n / d : Nat) : ℚ) + 1
      linarith
    · constructor
      · intro _
        rfl
      · intro _
        rfl
  · have hhalf : 1 / 2 < ((n % d : Nat) : ℚ) / d := by
      rw [div_lt_div_iff₀ (by norm_num) hdq]
      have hcast : (d : ℚ) < 2 * (n % d : Nat) := by exact_mod_cast horder
      linarith
    rw [compare_gt_iff_gt.mpr horder]
    apply truncates_of_upper
    · rfl
    · show ((n / d : Nat) : ℚ) + 1 / 2 ≤ _
      linarith
    · show _ < ((n / d : Nat) : ℚ) + 1
      linarith
    · show true = false ↔ _ = ((n / d : Nat) : ℚ) + 1 / 2
      constructor
      · intro h
        cases h
      · intro h
        linarith

theorem divCore_spec {m m' : Nat} (e e' : ℤ) (hm : 0 < m) (hm' : 0 < m') :
    ∃ (q : Nat) (t : ℤ) (accuracy : Accuracy),
      divCore Format.binary64 m e m' e' = (q, t, accuracy) ∧
      Truncates (ExtendedMantissa.ofMantissaAndAccuracy q accuracy)
        ((m * 2 ^ e : ℚ) / (m' * 2 ^ e') / 2 ^ t) ∧
      t ≤ max ((q.log2 : ℤ) + t - 52) (-1074) := by
  obtain ⟨t, ht⟩ : ∃ t : ℤ, min (e - e') (Format.binary64.targetExponent
      (totalExponent m e - totalExponent m' e')) = t := ⟨_, rfl⟩
  have htarget : Format.binary64.targetExponent (totalExponent m e - totalExponent m' e') =
      max ((m.log2 : ℤ) + e - (m'.log2 + e') - 53) (-1074) := by
    show max ((m.log2 : ℤ) + 1 + e - (m'.log2 + 1 + e') - 53) (-1074) = _
    congr 1
    ring
  rw [htarget] at ht
  obtain ⟨n, hn⟩ : ∃ n : Nat, (e - e' - t).toNat = n := ⟨_, rfl⟩
  refine ⟨(m <<< n) / m', t, accuracyOfFraction ((m <<< n) % m') m', ?_, ?_, ?_⟩
  · unfold divCore
    simp only [htarget, ht, hn]
  · have hexact : (m * 2 ^ e : ℚ) / (m' * 2 ^ e') / 2 ^ t = ((m <<< n : Nat) : ℚ) / m' := by
      have hpower : (2 : ℚ) ^ e = 2 ^ n * (2 ^ e' * 2 ^ t) := by
        rw [← zpow_natCast, ← zpow_add₀ (by norm_num), ← zpow_add₀ (by norm_num)]
        congr 1
        omega
      have hne : (m' : ℚ) ≠ 0 := by exact_mod_cast hm'.ne'
      rw [hpower, Nat.shiftLeft_eq]
      push_cast
      field_simp
    rw [hexact]
    exact truncates_quotient _ hm'
  · by_cases hlow : t ≤ -1074
    · omega
    · have hbits : 2 ^ 52 ≤ (m <<< n) / m' := by
        have hupper := Nat.lt_log2_self (n := m')
        have hlower := Nat.log2_self_le hm.ne'
        have hpower : 2 ^ (52 + (m'.log2 + 1)) ≤ 2 ^ (m.log2 + n) :=
          Nat.pow_le_pow_right (by norm_num) (by omega)
        rw [Nat.le_div_iff_mul_le hm', Nat.shiftLeft_eq]
        calc
          2 ^ 52 * m' ≤ 2 ^ 52 * 2 ^ (m'.log2 + 1) := Nat.mul_le_mul_left _ hupper.le
          _ = 2 ^ (52 + (m'.log2 + 1)) := (Nat.pow_add 2 _ _).symm
          _ ≤ 2 ^ (m.log2 + n) := hpower
          _ = 2 ^ m.log2 * 2 ^ n := Nat.pow_add 2 _ _
          _ ≤ m * 2 ^ n := Nat.mul_le_mul_right _ hlower
      have hlog := (Nat.le_log2 (by omega)).mpr hbits
      omega

theorem div_spec (hu : IsReduced u) (hv : IsReduced v) (hne : value v ≠ 0) :
    IsReduced (UnpackedFloat.div Format.binary64 u v) ∧
      IsNearest (value u / value v) (value (UnpackedFloat.div Format.binary64 u v)) := by
  cases v with
  | infinity s' => exact hv.elim
  | notANumber => exact hv.elim
  | zero s' => exact absurd rfl hne
  | finite s' m' e' hm' =>
      cases u with
      | infinity s => exact hu.elim
      | notANumber => exact hu.elim
      | zero s =>
          have hzero : value (.zero s) / value (.finite s' m' e' hm') = 0 := zero_div _
          rw [hzero]
          exact ⟨trivial, isNearest_self 0⟩
      | finite s m e hm =>
          rcases divCore_spec e e' hm hm' with
            ⟨q, t, accuracy, hcore, htruncates, hplace⟩
          have hdiv : UnpackedFloat.div Format.binary64 (.finite s m e hm) (.finite s' m' e' hm') =
              roundWithAccuracy Format.binary64 (s / s') q t accuracy := by
            show (match divCore Format.binary64 m e m' e' with
              | (q, t, accuracy) => roundWithAccuracy Format.binary64 (s / s') q t accuracy) = _
            rw [hcore]
          have hsigned : signFactor (s / s') * ((m * 2 ^ e) / (m' * 2 ^ e')) =
              value (.finite s m e hm) / value (.finite s' m' e' hm') := by
            rw [signFactor_div]
            show _ = signFactor s * (m * 2 ^ e) / (signFactor s' * (m' * 2 ^ e'))
            rw [mul_div_mul_comm (signFactor s)]
          rw [hdiv, ← hsigned]
          exact roundWithAccuracy_spec (s / s') htruncates hplace

end

end Binary64
end TileAudit
