import TileAudit.Proofs.Binary64.Scaling
import TileAudit.Proofs.Sampling.DefaultGrid

/-!
# Resolutions of a grid

The resolution of a zoom level is the base resolution divided by a power of two. As long as the
power is a number of binary64 this is the nearest number to the exact quotient, and the quotient
itself where it has all its bits, so that each level halves the one before it. From level 1024 on
the power is infinite and the resolution is zero, however large the exact quotient is.
-/

namespace TileAudit
namespace TileGrid

open Binary64

section

variable {grid : TileGrid} {base : ℚ} {zoom : UInt32}

theorem exists_isRounded_resolution (hbase : HasValue grid.baseResolution base)
    (hzoom : zoom.toNat < 1024) :
    ∃ v, IsRounded (grid.resolution zoom) (base / 2 ^ zoom.toNat) v :=
  hbase.exists_div (hasValue_powerOfTwo hzoom) (by positivity)

theorem hasValue_resolution_of_normal (hbase : HasValue grid.baseResolution base)
    (hzoom : zoom.toNat < 1024) (hnormal : leastNormal ≤ |base / 2 ^ zoom.toNat|) :
    HasValue (grid.resolution zoom) (base / 2 ^ zoom.toNat) := by
  rcases exists_isRounded_resolution hbase hzoom with ⟨v, hv⟩
  exact hv.exact (hbase.isRepresentable.div_two_pow hnormal)

theorem hasValue_resolution_zero (hbase : HasValue grid.baseResolution base)
    (hzoom : 1024 ≤ zoom.toNat) : HasValue (grid.resolution zoom) 0 := by
  unfold resolution
  rw [powerOfTwo_of_le hzoom]
  exact hbase.div_of_infinite (t := .positive) rfl

theorem exists_halved_resolution (hbase : HasValue grid.baseResolution base)
    (hzoom : zoom.toNat + 1 < 1024) (hnormal : leastNormal ≤ |base / 2 ^ (zoom.toNat + 1)|) :
    ∃ r, HasValue (grid.resolution zoom) r ∧ HasValue (grid.resolution (zoom + 1)) (r / 2) := by
  have hnext : (zoom + 1).toNat = zoom.toNat + 1 := by
    rw [UInt32.toNat_add]
    exact Nat.mod_eq_of_lt (by show zoom.toNat + 1 < 2 ^ 32; omega)
  have hhalf : base / 2 ^ (zoom.toNat + 1) = base / 2 ^ zoom.toNat / 2 := by
    rw [pow_succ, div_div]
  have hbefore : leastNormal ≤ |base / 2 ^ zoom.toNat| := by
    rw [hhalf, abs_div, abs_of_pos (by norm_num : (0 : ℚ) < 2)] at hnormal
    exact le_trans hnormal (half_le_self (abs_nonneg _))
  refine ⟨base / 2 ^ zoom.toNat, hasValue_resolution_of_normal hbase (by omega) hbefore, ?_⟩
  rw [← hhalf, ← hnext]
  rw [← hnext] at hnormal hzoom
  exact hasValue_resolution_of_normal hbase hzoom hnormal

end

/-- Where the exact quotient has all its bits, the resolution is the exact quotient below level 1024
and nowhere else. Below that level it is always nearest to the exact quotient, and half of the one
before it where the half has all its bits; from that level on it is zero. -/
theorem resolution_exact_iff (grid : TileGrid) {base : ℚ}
    (hbase : HasValue grid.baseResolution base) (hpos : 0 < base) :
    (∀ zoom : UInt32, leastNormal ≤ base / 2 ^ zoom.toNat →
      (HasValue (grid.resolution zoom) (base / 2 ^ zoom.toNat) ↔ zoom.toNat < 1024)) ∧
    (∀ zoom : UInt32, zoom.toNat + 1 < 1024 → leastNormal ≤ base / 2 ^ (zoom.toNat + 1) →
      ∃ r, HasValue (grid.resolution zoom) r ∧ HasValue (grid.resolution (zoom + 1)) (r / 2)) ∧
    (∀ zoom : UInt32, zoom.toNat < 1024 →
      ∃ v, IsRounded (grid.resolution zoom) (base / 2 ^ zoom.toNat) v) ∧
    ∀ zoom : UInt32, 1024 ≤ zoom.toNat → HasValue (grid.resolution zoom) 0 := by
  have hquotient : ∀ n : Nat, |base / 2 ^ n| = base / 2 ^ n :=
    fun n => abs_of_pos (by positivity)
  refine ⟨?_, ?_, fun zoom => exists_isRounded_resolution hbase,
    fun zoom => hasValue_resolution_zero hbase⟩
  · intro zoom hnormal
    constructor
    · intro hexact
      by_contra hlarge
      have hzero := hexact.unique (hasValue_resolution_zero hbase (not_lt.mp hlarge))
      have hpositive : 0 < base / 2 ^ zoom.toNat := by positivity
      exact hpositive.ne' hzero
    · intro hzoom
      exact hasValue_resolution_of_normal hbase hzoom (by rw [hquotient]; exact hnormal)
  · intro zoom hzoom hnormal
    exact exists_halved_resolution hbase hzoom (by rw [hquotient]; exact hnormal)

theorem leastNormal_le_thousand {n : Nat} (h : n ≤ 1024) :
    leastNormal ≤ (1000 : ℚ) / 2 ^ n := by
  rw [le_div_iff₀ (by positivity), leastNormal, ← zpow_natCast, ← zpow_add₀ (by norm_num)]
  calc
    (2 : ℚ) ^ (-1022 + (n : ℤ)) ≤ 2 ^ (2 : ℤ) := zpow_le_zpow_right₀ (by norm_num) (by omega)
    _ ≤ 1000 := by norm_num

theorem resolution_exact_iff_default :
    HasValue Config.defaultGrid.baseResolution 1000 ∧
      (∃ r, HasValue (Config.defaultGrid.resolution 1022) r ∧
        HasValue (Config.defaultGrid.resolution 1023) (r / 2)) ∧
      leastNormal ≤ (1000 : ℚ) / 2 ^ 1024 ∧
      ¬ HasValue (Config.defaultGrid.resolution 1024) (1000 / 2 ^ 1024) ∧
      HasValue (Config.defaultGrid.resolution 1024) 0 := by
  rcases resolution_exact_iff Config.defaultGrid hasValue_thousand (by norm_num) with
    ⟨hexact, hhalved, _, hzero⟩
  have hnormal : leastNormal ≤ (1000 : ℚ) / 2 ^ 1024 := leastNormal_le_thousand le_rfl
  have hhalf := hhalved 1022 (by decide) (leastNormal_le_thousand (by decide))
  refine ⟨hasValue_thousand, hhalf, hnormal, ?_, hzero 1024 (by decide)⟩
  intro h
  exact absurd ((hexact 1024 hnormal).mp h) (by decide)

end TileGrid
end TileAudit
