import TileAudit.Proofs.Binary64.Order

/-!
# Division by powers of two and by counts

A natural number of any size is converted without loss when it is a number of binary64, and so is
every power of two that is not too large. Dividing by such a power is exact as long as the quotient
has all its bits. A power that is too large is infinite, and a quotient by it is zero. Dividing a
difference by a count of parts never takes it across zero.
-/

namespace TileAudit
namespace Binary64

open Float.Model Float.Model.UnpackedFloat

section

variable {x : Float} {r v : ℚ}

theorem IsRounded.exact (h : IsRounded x r v) (hr : IsRepresentable r) : HasValue x r := by
  have hv : v = r := h.nearest.eq_of_onGrid hr.onGrid
  rw [hv] at h
  exact h.hasValue hr.lt

end

theorem hasValue_ofNat_of_isRepresentable {n : Nat} (h : IsRepresentable n) :
    HasValue (Float.ofNat n) n := by
  rcases exists_isRounded_ofNat n with ⟨v, hv⟩
  exact hv.exact h

theorem isRepresentable_two_pow {n : Nat} (h : n < 1024) : IsRepresentable (2 ^ n) := by
  have hpositive : (0 : ℚ) < 2 ^ n := by positivity
  rcases Nat.lt_or_ge n 53 with hsmall | hlarge
  · refine ⟨2 ^ n, 0, Nat.pow_lt_pow_right (by norm_num) hsmall, by norm_num, by norm_num, ?_⟩
    rw [abs_of_pos hpositive, zpow_zero, mul_one]
    push_cast
    rfl
  · refine ⟨2 ^ 52, (n : ℤ) - 52, by norm_num, by omega, by omega, ?_⟩
    rw [abs_of_pos hpositive, Nat.cast_pow, Nat.cast_ofNat, ← zpow_natCast, ← zpow_natCast,
      ← zpow_add₀ (by norm_num)]
    congr 1
    push_cast
    ring

theorem hasValue_powerOfTwo {n : Nat} (h : n < 1024) : HasValue (powerOfTwo n) (2 ^ n) := by
  have hcast : ((Nat.pow 2 n : Nat) : ℚ) = 2 ^ n := by
    show ((2 ^ n : Nat) : ℚ) = 2 ^ n
    push_cast
    rfl
  have hnat : HasValue (Float.ofNat (Nat.pow 2 n)) (Nat.pow 2 n : Nat) := by
    apply hasValue_ofNat_of_isRepresentable
    rw [hcast]
    exact isRepresentable_two_pow h
  rw [hcast] at hnat
  unfold powerOfTwo
  rw [if_pos h]
  exact hnat

theorem powerOfTwo_of_le {n : Nat} (h : 1024 ≤ n) : powerOfTwo n = infinity :=
  if_neg (Nat.not_lt.mpr h)

/-!
## Quotients

Dividing by a power of two loses nothing while all bits are left, and a quotient by an infinite
power is zero.
-/

/-- The least positive number that has all its bits. -/
def leastNormal : ℚ :=
  2 ^ (-1022 : ℤ)

theorem IsRepresentable.div_two_pow {q : ℚ} (h : IsRepresentable q) {n : Nat}
    (hnormal : leastNormal ≤ |q / 2 ^ n|) : IsRepresentable (q / 2 ^ n) := by
  rcases h with ⟨m, e, hm, _, hmost, hq⟩
  have hquotient : |q / 2 ^ n| = m * 2 ^ (e - n) := by
    rw [abs_div, abs_of_pos (by positivity : (0 : ℚ) < 2 ^ n), hq, zpow_sub₀ (by norm_num),
      zpow_natCast, mul_div_assoc]
  have hleast : -1074 ≤ e - n := by
    by_contra hlow
    have hcast : (m : ℚ) < 2 ^ 53 := by exact_mod_cast hm
    have hpower : (2 : ℚ) ^ (e - n) ≤ 2 ^ (-1075 : ℤ) :=
      zpow_le_zpow_right₀ (by norm_num) (by omega)
    have hsmall : |q / 2 ^ n| < leastNormal := by
      calc
        |q / 2 ^ n| = m * 2 ^ (e - n) := hquotient
        _ < 2 ^ 53 * 2 ^ (e - n) := mul_lt_mul_of_pos_right hcast (by positivity)
        _ ≤ 2 ^ 53 * 2 ^ (-1075 : ℤ) := mul_le_mul_of_nonneg_left hpower (by positivity)
        _ = leastNormal := by
          rw [leastNormal, ← zpow_natCast, ← zpow_add₀ (by norm_num)]
          rfl
    exact absurd hnormal (not_le.mpr hsmall)
  exact ⟨m, e - n, hm, hleast, by omega, hquotient⟩

theorem HasValue.div_of_infinite {x y : Float} {a : ℚ} {t : Sign} (hx : HasValue x a)
    (hy : y.toModel.unpack = .infinity t) : HasValue (x / y) 0 := by
  have hresult : x / y =
      .ofModel (.pack (UnpackedFloat.div Format.binary64 x.toModel.unpack (.infinity t))) := by
    rw [← hy]
    rfl
  have hzero : ∀ s, HasValue (.ofModel (.pack (.zero s))) 0 := by
    intro s
    exact hasValue_pack (u := .zero s) trivial (by simp [value])
  rw [hresult]
  rcases hx.zero_or_finite with ⟨s, hs, _⟩ | ⟨s, m, e, hm, hs, _⟩
  · rw [hs]
    exact hzero _
  · rw [hs]
    exact hzero _

/-- A part of a difference that is not zero lies on the side of zero where the difference lies. -/
theorem sides_of_part {x y : Float} {n : Nat} {q : ℚ} (hn : 0 < n)
    (h : HasValue ((x - y) / Float.ofNat n) q) (hq : q ≠ 0) :
    ∃ a b, HasValue x a ∧ HasValue y b ∧ (0 < q ↔ b < a) ∧ (q < 0 ↔ a < b) := by
  have hdifference := isFinite_of_div h.isFinite
  rcases hasValue_of_isFinite (isFinite_of_sub hdifference).1 with ⟨a, ha⟩
  rcases hasValue_of_isFinite (isFinite_of_sub hdifference).2 with ⟨b, hb⟩
  rcases hasValue_of_isFinite hdifference with ⟨d, hd⟩
  have hd' := ha.nearest_sub hb hd
  rcases exists_isRounded_ofNat n with ⟨c, hc⟩
  have hpos : 0 < c := one_pos.trans_le (hc.one_le hn)
  have hzero : OnGrid 0 := hasValue_zero.isRepresentable.onGrid
  have hfinite : HasValue (Float.ofNat n) c := by
    refine hc.hasValue (lt_of_not_ge fun hlarge => ?_)
    rcases hc.infinite hlarge with ⟨s, hs, _⟩
    exact hq (h.unique (hd.div_of_infinite hs))
  have hq' := hd.nearest_div hfinite hpos.ne' h
  -- Neither rounding crosses zero.
  have hright : b ≤ a → 0 ≤ q := fun hle =>
    hq'.ge hzero (div_nonneg (hd'.ge hzero (sub_nonneg.mpr hle)) hpos.le)
  have hleft : a ≤ b → q ≤ 0 := fun hle =>
    hq'.le hzero
      (div_nonpos_of_nonpos_of_nonneg (hd'.le hzero (sub_nonpos.mpr hle)) hpos.le)
  refine ⟨a, b, ha, hb, ⟨?_, ?_⟩, ⟨?_, ?_⟩⟩
  · intro hqpos
    by_contra hnot
    exact absurd (hleft (not_lt.mp hnot)) (not_le.mpr hqpos)
  · intro hlt
    exact lt_of_le_of_ne (hright hlt.le) hq.symm
  · intro hqneg
    by_contra hnot
    exact absurd (hright (not_lt.mp hnot)) (not_le.mpr hqneg)
  · intro hlt
    exact lt_of_le_of_ne (hleft hlt.le) hq

end Binary64
end TileAudit
