import TileAudit.Proofs.Binary64.Gaps

/-!
# Rounding errors

A nearest number differs from an exact result by a share of it, or by one gap where numbers lie
closest. Errors of several roundings add up: a width that is taken out of its rounded ends and
divided by a count stands for a part that is nearly the one it was made of.
-/

namespace TileAudit
namespace Binary64

/-!
## One rounding

Below every positive number there is a number of 53 bits that is near to it, and the nearest one is
no farther away.
-/

/-- The share of an exact result that rounding may lose. -/
def unitError : ℚ :=
  2 ^ (-52 : ℤ)

theorem unitError_pos : 0 < unitError :=
  zpow_pos two_pos _

theorem unitError_mul_le {q : ℚ} (hq : 0 ≤ q) : unitError * q ≤ q / 64 := by
  have hsmall : unitError ≤ 1 / 64 := by
    rw [unitError]
    norm_num
  calc
    unitError * q ≤ 1 / 64 * q := mul_le_mul_of_nonneg_right hsmall hq
    _ = q / 64 := by ring

theorem exists_onGrid_below {q : ℚ} (hq : 0 < q) :
    ∃ a, OnGrid a ∧ 0 ≤ q - a ∧ q - a ≤ unitError * q + leastGap := by
  have hlow : (2 : ℚ) ^ Int.log 2 q ≤ q := Int.zpow_log_le_self (by norm_num) hq
  have hhigh : q < (2 : ℚ) ^ (Int.log 2 q + 1) := Int.lt_zpow_succ_log_self (by norm_num) q
  obtain ⟨e, he⟩ : ∃ e : ℤ, e = max (Int.log 2 q - 52) (-1074) := ⟨_, rfl⟩
  have hstep : (0 : ℚ) < 2 ^ e := by positivity
  have hfloor : (⌊q / 2 ^ e⌋₊ : ℚ) * 2 ^ e ≤ q := by
    rw [← le_div_iff₀ hstep]
    exact Nat.floor_le (by positivity)
  have hnext : q < (⌊q / 2 ^ e⌋₊ + 1) * 2 ^ e := by
    rw [← div_lt_iff₀ hstep]
    exact Nat.lt_floor_add_one _
  have hbits : ⌊q / 2 ^ e⌋₊ < 2 ^ 53 := by
    rw [Nat.floor_lt (by positivity), div_lt_iff₀ hstep]
    push_cast
    calc
      q < 2 ^ (Int.log 2 q + 1) := hhigh
      _ ≤ 2 ^ (53 + e) := zpow_le_zpow_right₀ (by norm_num) (by omega)
      _ = 2 ^ 53 * 2 ^ e := by
        rw [zpow_add₀ (by norm_num)]
        norm_num
  have herror : (2 : ℚ) ^ e ≤ unitError * q + leastGap := by
    rcases max_choice (Int.log 2 q - 52) (-1074) with hlog | hleast
    · rw [he, hlog, sub_eq_add_neg, zpow_add₀ (by norm_num), mul_comm]
      have hshare := mul_le_mul_of_nonneg_left hlow unitError_pos.le
      exact hshare.trans (le_add_of_nonneg_right leastGap_pos.le)
    · rw [he, hleast]
      exact le_add_of_nonneg_left (mul_nonneg unitError_pos.le hq.le)
  refine ⟨⌊q / 2 ^ e⌋₊ * 2 ^ e, ⟨_, e, hbits, by omega, abs_of_nonneg (by positivity)⟩, ?_, ?_⟩
  · linarith
  · linarith

theorem exists_onGrid_near (q : ℚ) : ∃ a, OnGrid a ∧ |a - q| ≤ unitError * |q| + leastGap := by
  rcases lt_trichotomy q 0 with hneg | rfl | hpos
  · rcases exists_onGrid_below (neg_pos.mpr hneg) with ⟨a, ha, hlow, hhigh⟩
    refine ⟨-a, ha.neg, ?_⟩
    rw [abs_of_neg hneg, abs_le]
    constructor
    · linarith
    · linarith
  · refine ⟨0, hasValue_zero.isRepresentable.onGrid, ?_⟩
    rw [sub_zero, abs_zero, mul_zero, zero_add]
    exact leastGap_pos.le
  · rcases exists_onGrid_below hpos with ⟨a, ha, hlow, hhigh⟩
    refine ⟨a, ha, ?_⟩
    rw [abs_of_pos hpos, abs_le]
    constructor
    · linarith
    · linarith

theorem IsNearest.error {r v size : ℚ} (h : IsNearest r v) (hsize : |r| ≤ size) :
    |v - r| ≤ unitError * size + leastGap := by
  rcases exists_onGrid_near r with ⟨a, ha, hnear⟩
  calc
    |v - r| ≤ |a - r| := h a ha
    _ ≤ unitError * |r| + leastGap := hnear
    _ ≤ unitError * size + leastGap :=
      add_le_add_left (mul_le_mul_of_nonneg_left hsize unitError_pos.le) _

/-!
## Several roundings

A part is taken out of the rounded ends of `c` parts, and places are reached from one place by
nearly equal steps. Both bounds add up the losses of the single steps.
-/

section

variable {m r c s e w q : ℚ}

theorem error_of_part (hc : 0 < c) (hs : IsNearest (c * r) s) (he : IsNearest (m + s) e)
    (hw : IsNearest (e - m) w) (hq : IsNearest (w / c) q) :
    c * |q - r| ≤ 6 * (unitError * (|m| + c * |r|)) + (5 + c) * leastGap := by
  obtain ⟨size, hsize⟩ : ∃ size, size = |m| + c * |r| := ⟨_, rfl⟩
  have hcr : |c * r| = c * |r| := by rw [abs_mul, abs_of_pos hc]
  have hpart : |c * r| ≤ size := by
    rw [hcr, hsize]
    exact le_add_of_nonneg_left (abs_nonneg m)
  have hboth : |m + c * r| ≤ size := by
    rw [hsize, ← hcr]
    exact abs_add_le m (c * r)
  have hnonneg : 0 ≤ unitError * size :=
    mul_nonneg unitError_pos.le ((abs_nonneg _).trans hpart)
  have hgap := leastGap_pos
  have hunit := unitError_mul_le hnonneg
  have hunit' := unitError_mul_le hgap.le
  -- One bound for each of the four roundings, each on the result of the ones before.
  have hs' := hs.error hpart
  have hms : |m + s| ≤ size + unitError * size + leastGap := by
    have hsum := abs_add_le (m + c * r) (s - c * r)
    rw [show m + c * r + (s - c * r) = m + s by ring] at hsum
    linarith
  have he' := he.error hms
  rw [mul_add, mul_add] at he'
  have hem : |e - m| ≤ size + 3 * (unitError * size) + 3 * leastGap := by
    have hsum := abs_add_three (c * r) (s - c * r) (e - (m + s))
    rw [show c * r + (s - c * r) + (e - (m + s)) = e - m by ring] at hsum
    linarith
  have hw' := hw.error hem
  rw [mul_add, mul_add, mul_left_comm, mul_left_comm unitError 3] at hw'
  have hwr : |w - c * r| ≤ 4 * (unitError * size) + 4 * leastGap := by
    have hsum := abs_add_three (w - (e - m)) (e - (m + s)) (s - c * r)
    rw [show w - (e - m) + (e - (m + s)) + (s - c * r) = w - c * r by ring] at hsum
    linarith
  have hwidth : |w / c| ≤ (size + 4 * (unitError * size) + 4 * leastGap) / c := by
    rw [abs_div, abs_of_pos hc]
    apply div_le_div_of_nonneg_right _ hc.le
    have hsum := abs_add_le (c * r) (w - c * r)
    rw [add_sub_cancel] at hsum
    linarith
  have hq' := mul_le_mul_of_nonneg_left (hq.error hwidth) hc.le
  rw [mul_add, mul_left_comm, mul_div_cancel₀ _ hc.ne', mul_add, mul_add, mul_left_comm unitError 4,
    mul_left_comm unitError 4] at hq'
  have hsum := abs_add_le (c * (q - w / c)) (w - c * r)
  rw [show c * (q - w / c) + (w - c * r) = c * (q - r) by
      rw [mul_sub, mul_div_cancel₀ _ hc.ne']
      ring, abs_mul, abs_mul, abs_of_pos hc] at hsum
  rw [← hsize]
  linarith

theorem error_of_place {p k t t' x x' size drift : ℚ} (hk : 0 ≤ k) (hsize : k * |r| ≤ size)
    (hdrift : k * |q - r| ≤ drift) (ht : IsNearest (k * r) t) (ht' : IsNearest (k * q) t')
    (hx : IsNearest (p + t) x) (hx' : IsNearest (p + t') x') :
    |x' - x| ≤ 2 * (unitError * |p|) + 5 * (unitError * size) + 2 * drift + 5 * leastGap := by
  have hgap := leastGap_pos
  have hkr : |k * r| ≤ size := by rwa [abs_mul, abs_of_nonneg hk]
  have hkd : |k * (q - r)| ≤ drift := by rwa [abs_mul, abs_of_nonneg hk]
  have hkq : |k * q| ≤ size + drift := by
    have hsum := abs_add_le (k * r) (k * (q - r))
    rw [show k * r + k * (q - r) = k * q by ring] at hsum
    linarith
  have hdriftNonneg : 0 ≤ drift := (abs_nonneg _).trans hkd
  have hshareNonneg : 0 ≤ unitError * size :=
    mul_nonneg unitError_pos.le ((abs_nonneg _).trans hkr)
  have hunitSize := unitError_mul_le hshareNonneg
  have hunitDrift := unitError_mul_le hdriftNonneg
  have hunitDrift' := unitError_mul_le (mul_nonneg unitError_pos.le hdriftNonneg)
  have hunitGap := unitError_mul_le hgap.le
  have hstep := ht.error hkr
  have hstep' := ht'.error hkq
  rw [mul_add] at hstep'
  have hpt : |p + t| ≤ |p| + size + unitError * size + leastGap := by
    have hsum := abs_add_three p (k * r) (t - k * r)
    rw [show p + k * r + (t - k * r) = p + t by ring] at hsum
    linarith
  have hpt' : |p + t'| ≤ |p| + size + unitError * size + leastGap + drift + unitError * drift := by
    have hsum := abs_add_three p (k * q) (t' - k * q)
    rw [show p + k * q + (t' - k * q) = p + t' by ring] at hsum
    linarith
  have hplace := hx.error hpt
  have hplace' := hx'.error hpt'
  simp only [mul_add] at hplace hplace'
  have hsteps : |t' - t| ≤ drift + 2 * (unitError * size) + unitError * drift + 2 * leastGap := by
    have hsum := abs_add_three (t' - k * q) (k * (q - r)) (k * r - t)
    rw [show t' - k * q + k * (q - r) + (k * r - t) = t' - t by ring,
      abs_sub_comm (k * r) t] at hsum
    linarith
  have hsum := abs_add_three (x' - (p + t')) (t' - t) (p + t - x)
  rw [show x' - (p + t') + (t' - t) + (p + t - x) = x' - x by ring,
    abs_sub_comm (p + t) x] at hsum
  linarith

end

end Binary64
end TileAudit
