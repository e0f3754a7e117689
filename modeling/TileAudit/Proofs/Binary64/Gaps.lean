import TileAudit.Proofs.Binary64.Progressions

/-!
# Gaps between numbers

All numbers are multiples of the least positive one, so two numbers that differ lie at least that
far apart, and rounding their difference does not close the gap. A cell as small as the gap holds
one number only.
-/

namespace TileAudit
namespace Binary64

open Float.Model Float.Model.UnpackedFloat

def leastPositive : Float :=
  Float.ofBits 1

/-- The distance that neighbours keep where numbers lie closest. -/
def leastGap : ℚ :=
  2 ^ (-1074 : ℤ)

theorem leastGap_pos : 0 < leastGap :=
  zpow_pos two_pos _

theorem hasValue_leastPositive : HasValue leastPositive leastGap := by
  have hunpack : leastPositive.toModel.unpack = .finite .positive 1 (-1074) (by decide) := rfl
  have hvalue := hasValue_of_unpack hunpack
  rw [signFactor, one_mul, Nat.cast_one, one_mul] at hvalue
  exact hvalue

theorem OnGrid.exists_multiple {q : ℚ} (h : OnGrid q) : ∃ n : ℤ, q = n * leastGap := by
  rcases h with ⟨m, e, _, he, hq⟩
  have habs : |q| = ((m * 2 ^ (e + 1074).toNat : ℤ) : ℚ) * leastGap := by
    have hexponent : ((e + 1074).toNat : ℤ) = e + 1074 := Int.toNat_of_nonneg (by omega)
    have hpower : (2 : ℚ) ^ (e + 1074).toNat * leastGap = 2 ^ e := by
      rw [leastGap, ← zpow_natCast, hexponent, ← zpow_add₀ (by norm_num), add_neg_cancel_right]
    push_cast
    rw [mul_assoc, hpower, hq]
  rcases abs_choice q with hpos | hneg
  · exact ⟨_, hpos.symm.trans habs⟩
  · refine ⟨-(m * 2 ^ (e + 1074).toNat : ℤ), ?_⟩
    rw [Int.cast_neg, neg_mul, ← habs, hneg, neg_neg]

theorem OnGrid.add_le_of_lt {a b : ℚ} (ha : OnGrid a) (hb : OnGrid b) (hlt : a < b) :
    a + leastGap ≤ b := by
  rcases ha.exists_multiple with ⟨n, rfl⟩
  rcases hb.exists_multiple with ⟨k, rfl⟩
  have hnk : n + 1 ≤ k := by
    have hcast := lt_of_mul_lt_mul_right hlt leastGap_pos.le
    exact_mod_cast hcast
  have hnk' : (n : ℚ) + 1 ≤ k := by exact_mod_cast hnk
  calc
    (n : ℚ) * leastGap + leastGap = (n + 1) * leastGap := by ring
    _ ≤ k * leastGap := mul_le_mul_of_nonneg_right hnk' leastGap_pos.le

section

variable {x y w : Float} {a b : ℚ}

theorem cell?_of_gap (hx : HasValue x a) (hy : HasValue y b) :
    cell? ((y - x) / leastPositive) 1 = if a = b then some 0 else none := by
  have hunit : OnGrid leastGap := hasValue_leastPositive.isRepresentable.onGrid
  by_cases hab : a = b
  · have hsub := hy.sub hx
    rw [hab, sub_self] at hsub
    have hdiv := (hsub hasValue_zero.isRepresentable).div hasValue_leastPositive leastGap_pos.ne'
    rw [zero_div] at hdiv
    rw [(hdiv hasValue_zero.isRepresentable).cell? (by norm_num), if_pos (by norm_num), if_pos hab,
      Nat.floor_zero]
  · rw [if_neg hab]
    cases hcell : cell? ((y - x) / leastPositive) 1 with
    | none => rfl
    | some n =>
        exfalso
        have hfinite := isFinite_of_cell? hcell
        rcases hasValue_of_isFinite hfinite with ⟨q, hq⟩
        rcases hasValue_of_isFinite (isFinite_of_div hfinite) with ⟨d, hd⟩
        have hd' := hy.nearest_sub hx hd
        have hq' := hd.nearest_div hasValue_leastPositive leastGap_pos.ne' hq
        have hin : 0 ≤ q ∧ q < ((1 : Nat) : ℚ) := by
          rw [hq.cell? (by norm_num)] at hcell
          by_contra hout
          rw [if_neg hout] at hcell
          cases hcell
        rw [Nat.cast_one] at hin
        rcases lt_or_gt_of_ne hab with hlt | hgt
        · have hgap := hx.isRepresentable.onGrid.add_le_of_lt hy.isRepresentable.onGrid hlt
          have hfar : (1 : ℚ) ≤ d / leastGap :=
            (one_le_div leastGap_pos).mpr (hd'.ge hunit (by linarith))
          exact absurd (hq'.ge onGrid_one hfar) (not_le.mpr hin.2)
        · have hgap := hy.isRepresentable.onGrid.add_le_of_lt hx.isRepresentable.onGrid hgt
          have hfar : d / leastGap ≤ -1 := by
            rw [div_le_iff₀ leastGap_pos, neg_one_mul]
            exact hd'.le hunit.neg (by linarith)
          have hbelow := hq'.le onGrid_one.neg hfar
          linarith [hin.1]

end

end Binary64
end TileAudit
