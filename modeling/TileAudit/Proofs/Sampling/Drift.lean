import TileAudit.Proofs.Binary64.Errors
import TileAudit.Sampling

/-!
# Nearby pixel centres

The resolution that is left in the corners of a box is rounded four times, and each pixel centre
twice more. So the centres of the box stay near to those of the address: they drift by a small share
of the coordinates they are made of.
-/

namespace TileAudit

open Binary64

def Binary64.IsWithin (bound : ℚ) (x y : Float) : Prop :=
  ∃ a b, HasValue x a ∧ HasValue y b ∧ |a - b| ≤ bound

namespace TileGrid

/-- The numbers that the columns of a tile, its resolution and its north-west corner stand for. -/
structure Measures (grid : TileGrid) (tile : TileAddress) where
  columns : ℚ
  resolution : ℚ
  west : ℚ
  north : ℚ
  columns_eq : HasValue (Float.ofNat grid.tileSize) columns
  resolution_eq : HasValue (grid.resolution tile.zoom) resolution
  west_eq : HasValue (grid.bounds tile).minx west
  north_eq : HasValue (grid.bounds tile).maxy north

namespace Measures

variable {grid : TileGrid} {tile : TileAddress} {px py : Nat}

/-- How far the pixel centres may lie apart that are reached from a coordinate of the corner. -/
def drift (m : grid.Measures tile) (corner : ℚ) : ℚ :=
  34 * unitError * (|corner| + |m.west| + m.columns * |m.resolution|) +
    (25 + 4 * m.columns) * leastGap

theorem drift_neg (m : grid.Measures tile) (corner : ℚ) : m.drift (-corner) = m.drift corner := by
  rw [drift, abs_neg, drift]

theorem exists_of_isFinite
    (hpart : ((grid.bounds tile).width / Float.ofNat grid.tileSize).isFinite = true)
    (hnorth : (grid.bounds tile).maxy.isFinite = true) : Nonempty (grid.Measures tile) := by
  have hwidth := isFinite_of_sub (isFinite_of_div hpart)
  have hspan := isFinite_of_mul (isFinite_of_add hwidth.1).2
  rcases hasValue_of_isFinite hspan.1 with ⟨columns, hcolumns⟩
  rcases hasValue_of_isFinite hspan.2 with ⟨resolution, hresolution⟩
  rcases hasValue_of_isFinite hwidth.2 with ⟨west, hwest⟩
  rcases hasValue_of_isFinite hnorth with ⟨north, hnorth⟩
  exact ⟨⟨columns, resolution, west, north, hcolumns, hresolution, hwest, hnorth⟩⟩

theorem one_le_columns (m : grid.Measures tile) (hsize : 0 < grid.tileSize) : 1 ≤ m.columns := by
  rcases exists_isRounded_ofNat grid.tileSize with ⟨v, hv⟩
  rw [← hv.eq_of_hasValue m.columns_eq]
  exact hv.one_le hsize

theorem exists_offset (m : grid.Measures tile) (hpx : px < grid.tileSize)
    (hfinite : (Float.ofNat px + 0.5).isFinite = true) :
    ∃ k, HasValue (Float.ofNat px + 0.5) k ∧ 0 ≤ k ∧ k ≤ 2 * m.columns := by
  have hcolumns := m.one_le_columns (Nat.zero_lt_of_lt hpx)
  rcases hasValue_of_isFinite hfinite with ⟨k, hk⟩
  rcases proceeds_ofNat.between (Nat.zero_le px) hpx.le (hasValue_ofNat (n := 0) (by norm_num))
    m.columns_eq with
    ⟨column, hcolumn, hlow, hhigh⟩
  rw [Nat.cast_zero, mul_zero, one_mul] at hlow
  rw [one_mul, one_mul] at hhigh
  have hnearest := hcolumn.nearest_add hasValue_half hk
  refine ⟨k, hk, ?_, ?_⟩
  · exact hnearest.ge hasValue_zero.isRepresentable.onGrid (by linarith)
  · exact hnearest.le m.columns_eq.isRepresentable.onGrid.two_mul (by linarith)

theorem error_of_resolution (m : grid.Measures tile) (hsize : 0 < grid.tileSize) {part : ℚ}
    (hpart : HasValue ((grid.bounds tile).width / Float.ofNat grid.tileSize) part) :
    m.columns * |part - m.resolution| ≤
      6 * (unitError * (|m.west| + m.columns * |m.resolution|)) + (5 + m.columns) * leastGap := by
  have hcolumns : 0 < m.columns := one_pos.trans_le (m.one_le_columns hsize)
  have hwidth := isFinite_of_div hpart.isFinite
  have heast := (isFinite_of_sub hwidth).1
  rcases hasValue_of_isFinite hwidth with ⟨width, hwidth⟩
  rcases hasValue_of_isFinite heast with ⟨east, heast⟩
  rcases hasValue_of_isFinite (isFinite_of_add heast.isFinite).2 with ⟨span, hspan⟩
  exact error_of_part hcolumns (m.columns_eq.nearest_mul m.resolution_eq hspan)
    (m.west_eq.nearest_add hspan heast) (heast.nearest_sub m.west_eq hwidth)
    (hwidth.nearest_div m.columns_eq hcolumns.ne' hpart)

theorem abs_sub_le_drift (m : grid.Measures tile) {part corner k t t' x x' : ℚ}
    (hpart : m.columns * |part - m.resolution| ≤
      6 * (unitError * (|m.west| + m.columns * |m.resolution|)) + (5 + m.columns) * leastGap)
    (hk : 0 ≤ k) (hk' : k ≤ 2 * m.columns) (ht : IsNearest (k * m.resolution) t)
    (ht' : IsNearest (k * part) t') (hx : IsNearest (corner + t) x)
    (hx' : IsNearest (corner + t') x') : |x' - x| ≤ m.drift corner := by
  have hsize := mul_le_mul_of_nonneg_right hk' (abs_nonneg m.resolution)
  have hdrift := mul_le_mul_of_nonneg_right hk' (abs_nonneg (part - m.resolution))
  have herror := error_of_place hk hsize hdrift ht ht' hx hx'
  have hcorner := mul_nonneg unitError_pos.le (abs_nonneg corner)
  have hwest := mul_nonneg unitError_pos.le (abs_nonneg m.west)
  rw [drift]
  linarith

theorem isWithin_x (m : grid.Measures tile) (hpx : px < grid.tileSize)
    (h : ((grid.sampleGrid tile).x px).isFinite = true)
    (h' : (((grid.bounds tile).sampleGrid grid.tileSize).x px).isFinite = true) :
    IsWithin (m.drift m.west) (((grid.bounds tile).sampleGrid grid.tileSize).x px)
      ((grid.sampleGrid tile).x px) := by
  have hoffset := (isFinite_of_add h).2
  have hoffset' := (isFinite_of_add h').2
  rcases hasValue_of_isFinite h with ⟨x, hx⟩
  rcases hasValue_of_isFinite h' with ⟨x', hx'⟩
  rcases hasValue_of_isFinite hoffset with ⟨t, ht⟩
  rcases hasValue_of_isFinite hoffset' with ⟨t', ht'⟩
  rcases hasValue_of_isFinite (isFinite_of_mul hoffset').2 with ⟨part, hpart⟩
  rcases m.exists_offset hpx (isFinite_of_mul hoffset).1 with ⟨k, hk, hlow, hhigh⟩
  refine ⟨x', x, hx', hx, ?_⟩
  exact m.abs_sub_le_drift (m.error_of_resolution (Nat.zero_lt_of_lt hpx) hpart) hlow hhigh
    (hk.nearest_mul m.resolution_eq ht) (hk.nearest_mul hpart ht')
    (m.west_eq.nearest_add ht hx) (m.west_eq.nearest_add ht' hx')

theorem isWithin_y (m : grid.Measures tile) (hpy : py < grid.tileSize)
    (h : ((grid.sampleGrid tile).y py).isFinite = true)
    (h' : (((grid.bounds tile).sampleGrid grid.tileSize).y py).isFinite = true) :
    IsWithin (m.drift m.north) (((grid.bounds tile).sampleGrid grid.tileSize).y py)
      ((grid.sampleGrid tile).y py) := by
  have hoffset := (isFinite_of_sub h).2
  have hoffset' := (isFinite_of_sub h').2
  rcases hasValue_of_isFinite h with ⟨y, hy⟩
  rcases hasValue_of_isFinite h' with ⟨y', hy'⟩
  rcases hasValue_of_isFinite hoffset with ⟨t, ht⟩
  rcases hasValue_of_isFinite hoffset' with ⟨t', ht'⟩
  rcases hasValue_of_isFinite (isFinite_of_mul hoffset').2 with ⟨part, hpart⟩
  rcases m.exists_offset hpy (isFinite_of_mul hoffset).1 with ⟨k, hk, hlow, hhigh⟩
  have hdown : ∀ {t y : ℚ}, IsNearest (m.north - t) y → IsNearest (-m.north + t) (-y) := by
    intro t y hnearest
    have hneg := hnearest.neg
    rwa [neg_sub, sub_eq_neg_add] at hneg
  -- Rows run south: seen from below, they are columns that run up from the corner.
  have hnear := m.abs_sub_le_drift (m.error_of_resolution (Nat.zero_lt_of_lt hpy) hpart) hlow hhigh
    (hk.nearest_mul m.resolution_eq ht) (hk.nearest_mul hpart ht')
    (hdown (m.north_eq.nearest_sub ht hy)) (hdown (m.north_eq.nearest_sub ht' hy'))
  rw [drift_neg, neg_sub_neg, abs_sub_comm] at hnear
  exact ⟨y', y, hy', hy, hnear⟩

end Measures
end TileGrid
end TileAudit
