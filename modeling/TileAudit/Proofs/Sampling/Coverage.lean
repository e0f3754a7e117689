import TileAudit.Proofs.Sampling.Inside

/-!
# The covered part of a tile

The pixel centres of a tile are placed on the map by adding, multiplying and dividing rounded
numbers. Each of these steps keeps the centres of a column or of a row in order, and what overflows
does so at the ends only. So the centres that lie in the raster form one rectangle, in which the
pixels of the raster stand in their order or in the reverse of it.
-/

namespace TileAudit

open Binary64

theorem proceeds_centres : Proceeds 1 (fun i => Float.ofNat i + 0.5) := by
  have hdirection : (0 : ℚ) ≤ 1 * 1 * 1 := by norm_num
  exact proceeds_ofNat.line (roundsLine_add_right hasValue_half) one_ne_zero one_ne_zero hdirection

theorem proceeds_coordinate {κ d r q p τ : ℚ} {place : Float → Float} {resolution origin size : Float}
    (hplace : RoundsLine place κ d) (hresolution : HasValue resolution r)
    (horigin : HasValue origin q) (hsize : HasValue size p) (hκ : κ ≠ 0) (hp : p ≠ 0) (hτ : τ ≠ 0)
    (hdirection : 0 ≤ r * κ * p * τ) :
    Proceeds τ (fun i => (place ((Float.ofNat i + 0.5) * resolution) - origin) / size) := by
  have hpτ : p * τ ≠ 0 := mul_ne_zero hp hτ
  have hκpτ : κ * p * τ ≠ 0 := mul_ne_zero (mul_ne_zero hκ hp) hτ
  have hoffsets : Proceeds (κ * p * τ) (fun i => (Float.ofNat i + 0.5) * resolution) := by
    refine proceeds_centres.line (roundsLine_mul_right hresolution) one_ne_zero hκpτ ?_
    calc
      0 ≤ r * κ * p * τ := hdirection
      _ = 1 * r * (κ * p * τ) := by ring
  have hplaces : Proceeds (p * τ) (fun i => place ((Float.ofNat i + 0.5) * resolution)) := by
    refine hoffsets.line hplace hκpτ hpτ ?_
    calc
      0 ≤ κ * p * τ * (κ * p * τ) := mul_self_nonneg _
      _ = κ * p * τ * κ * (p * τ) := by ring
  have hdistances : Proceeds (p * τ)
      (fun i => place ((Float.ofNat i + 0.5) * resolution) - origin) := by
    refine hplaces.line (roundsLine_sub_right horigin) hpτ hpτ ?_
    rw [mul_one]
    exact mul_self_nonneg _
  refine hdistances.line (roundsLine_div_right hsize hp) hpτ hτ ?_
  calc
    0 ≤ τ * τ := mul_self_nonneg _
    _ = p * τ * p⁻¹ * τ := by
      rw [mul_comm p τ, mul_inv_cancel_right₀ hp]

namespace Raster

section

variable {raster : Raster} {g : SampleGrid} {τ : ℚ}

theorem proceeds_columns (hτ : τ ≠ 0) (hdirection : ∀ r, HasValue g.resolution r → 0 ≤ r * τ) :
    Proceeds τ (fun px => raster.transform.toColumn (g.x px)) := by
  constructor
  intro i m j a b him hmj hi hj
  -- One finite coordinate shows that the numbers it is computed from are finite.
  rcases isFinite_of_sub (isFinite_of_div hi.isFinite) with ⟨hx, horigin⟩
  rcases isFinite_of_add hx with ⟨hcorner, hoffset⟩
  rcases hasValue_of_isFinite horigin with ⟨q, hq⟩
  rcases hasValue_of_isFinite hcorner with ⟨d, hd⟩
  rcases hasValue_of_isFinite (isFinite_of_mul hoffset).2 with ⟨r, hr⟩
  rcases raster.transform.exists_pixelWidth with ⟨p, hp, hpos⟩
  have hslope : 0 ≤ r * 1 * p * τ := by
    calc
      0 ≤ r * τ * p := mul_nonneg (hdirection r hr) hpos.le
      _ = r * 1 * p * τ := by ring
  have hcolumns : Proceeds τ (fun px => raster.transform.toColumn (g.x px)) :=
    proceeds_coordinate (roundsLine_add_left hd) hr hq hp one_ne_zero hpos.ne' hτ hslope
  exact hcolumns.between him hmj hi hj

theorem proceeds_rows (hτ : τ ≠ 0) (hdirection : ∀ r p, HasValue g.resolution r →
      HasValue raster.transform.pixelHeight p → r * p * τ ≤ 0) :
    Proceeds τ (fun py => raster.transform.toRow (g.y py)) := by
  constructor
  intro i m j a b him hmj hi hj
  rcases isFinite_of_sub (isFinite_of_div hi.isFinite) with ⟨hy, horigin⟩
  rcases isFinite_of_sub hy with ⟨hcorner, hoffset⟩
  rcases hasValue_of_isFinite horigin with ⟨q, hq⟩
  rcases hasValue_of_isFinite hcorner with ⟨d, hd⟩
  rcases hasValue_of_isFinite (isFinite_of_mul hoffset).2 with ⟨r, hr⟩
  rcases raster.transform.exists_pixelHeight with ⟨p, hp, hne⟩
  have hslope : 0 ≤ r * -1 * p * τ := by
    calc
      0 ≤ -(r * p * τ) := neg_nonneg.mpr (hdirection r p hr hp)
      _ = r * -1 * p * τ := by ring
  have hrows : Proceeds τ (fun py => raster.transform.toRow (g.y py)) :=
    proceeds_coordinate (roundsLine_sub_left hd) hr hq hp (neg_ne_zero.mpr one_ne_zero) hne hτ hslope
  exact hrows.between him hmj hi hj

/-!
## Columns and rows in order

Whatever the resolution is, its sign decides for one of the two directions.
-/

theorem runs_columns_of_nonneg (h : ∀ r, HasValue g.resolution r → 0 ≤ r) :
    Runs (· ≤ ·) (fun px => raster.columnAt? (g.x px)) := by
  have hproceeds : Proceeds 1 (fun px => raster.transform.toColumn (g.x px)) := by
    refine proceeds_columns one_ne_zero fun r hr => ?_
    rw [mul_one]
    exact h r hr
  exact hproceeds.runs_of_pos one_pos raster.width

theorem runs_columns_of_nonpos (h : ∀ r, HasValue g.resolution r → r ≤ 0) :
    Runs (· ≥ ·) (fun px => raster.columnAt? (g.x px)) := by
  have hproceeds : Proceeds (-1) (fun px => raster.transform.toColumn (g.x px)) := by
    refine proceeds_columns (neg_ne_zero.mpr one_ne_zero) fun r hr => ?_
    rw [mul_neg_one]
    exact neg_nonneg.mpr (h r hr)
  exact hproceeds.runs_of_neg neg_one_lt_zero raster.width

theorem runs_rows_of_nonpos (h : ∀ r p, HasValue g.resolution r →
      HasValue raster.transform.pixelHeight p → r * p ≤ 0) :
    Runs (· ≤ ·) (fun py => raster.rowAt? (g.y py)) := by
  have hproceeds : Proceeds 1 (fun py => raster.transform.toRow (g.y py)) := by
    refine proceeds_rows one_ne_zero fun r p hr hp => ?_
    rw [mul_one]
    exact h r p hr hp
  exact hproceeds.runs_of_pos one_pos raster.height

theorem runs_rows_of_nonneg (h : ∀ r p, HasValue g.resolution r →
      HasValue raster.transform.pixelHeight p → 0 ≤ r * p) :
    Runs (· ≥ ·) (fun py => raster.rowAt? (g.y py)) := by
  have hproceeds : Proceeds (-1) (fun py => raster.transform.toRow (g.y py)) := by
    refine proceeds_rows (neg_ne_zero.mpr one_ne_zero) fun r p hr hp => ?_
    rw [mul_neg_one]
    exact neg_nonpos.mpr (h r p hr hp)
  exact hproceeds.runs_of_neg neg_one_lt_zero raster.height

theorem columns_run (raster : Raster) (g : SampleGrid) :
    Runs (· ≤ ·) (fun px => raster.columnAt? (g.x px)) ∨
      Runs (· ≥ ·) (fun px => raster.columnAt? (g.x px)) := by
  by_cases h : ∀ r, HasValue g.resolution r → 0 ≤ r
  · exact Or.inl (runs_columns_of_nonneg h)
  · push Not at h
    rcases h with ⟨r, hr, hneg⟩
    refine Or.inr (runs_columns_of_nonpos ?_)
    intro r' hr'
    rw [hr'.unique hr]
    exact hneg.le

theorem rows_run (raster : Raster) (g : SampleGrid) :
    Runs (· ≤ ·) (fun py => raster.rowAt? (g.y py)) ∨
      Runs (· ≥ ·) (fun py => raster.rowAt? (g.y py)) := by
  by_cases h : ∀ r p, HasValue g.resolution r → HasValue raster.transform.pixelHeight p → r * p ≤ 0
  · exact Or.inl (runs_rows_of_nonpos h)
  · push Not at h
    rcases h with ⟨r, p, hr, hp, hpos⟩
    refine Or.inr (runs_rows_of_nonneg ?_)
    intro r' p' hr' hp'
    rw [hr'.unique hr, hp'.unique hp]
    exact hpos.le

end

/-- Along the columns of a tile the source columns are related by `R`. -/
def ColumnsRun (raster : Raster) (g : SampleGrid) (R : Nat → Nat → Prop) : Prop :=
  ∀ {px py px' py' col row col' row'}, px ≤ px' → raster.sourceAt? g px py = some (col, row) →
    raster.sourceAt? g px' py' = some (col', row') → R col col'

def RowsRun (raster : Raster) (g : SampleGrid) (R : Nat → Nat → Prop) : Prop :=
  ∀ {px py px' py' col row col' row'}, py ≤ py' → raster.sourceAt? g px py = some (col, row) →
    raster.sourceAt? g px' py' = some (col', row') → R row row'

section

variable {raster : Raster} {g : SampleGrid} {R : Nat → Nat → Prop}

theorem columnsRun_of_runs (h : Runs R fun px => raster.columnAt? (g.x px)) :
    raster.ColumnsRun g R := by
  intro px py px' py' col row col' row' hle hsource hsource'
  exact h.rel hle (pixelAt?_eq_some_iff.mp hsource).1 (pixelAt?_eq_some_iff.mp hsource').1

theorem rowsRun_of_runs (h : Runs R fun py => raster.rowAt? (g.y py)) : raster.RowsRun g R := by
  intro px py px' py' col row col' row' hle hsource hsource'
  exact h.rel hle (pixelAt?_eq_some_iff.mp hsource).2 (pixelAt?_eq_some_iff.mp hsource').2

theorem exists_bounds_of_runs {names : Nat → Option Nat}
    (h : Runs (· ≤ ·) names ∨ Runs (· ≥ ·) names) (size : Nat) :
    ∃ first last, ∀ i, i < size → ((names i).isSome ↔ first ≤ i ∧ i < last) := by
  rcases h with hrise | hfall
  · exact hrise.exists_bounds size
  · exact hfall.exists_bounds size

end

/-- The covered part of a tile is one rectangle. In it the columns and the rows of the raster stand
in order, the columns from west to east unless the resolution is negative, and the rows from north
to south if the rows of the raster run south as well. -/
theorem covered_rectangle (raster : Raster) (grid : TileGrid) (tile : TileAddress) :
    (∃ px₀ px₁ py₀ py₁, ∀ px py, px < grid.tileSize → py < grid.tileSize →
      ((raster.sourceAt? (grid.sampleGrid tile) px py).isSome ↔
        (px₀ ≤ px ∧ px < px₁) ∧ (py₀ ≤ py ∧ py < py₁))) ∧
      (raster.ColumnsRun (grid.sampleGrid tile) (· ≤ ·) ∨
        raster.ColumnsRun (grid.sampleGrid tile) (· ≥ ·)) ∧
      (raster.RowsRun (grid.sampleGrid tile) (· ≤ ·) ∨
        raster.RowsRun (grid.sampleGrid tile) (· ≥ ·)) ∧
      ((0.0 : Float) ≤ grid.resolution tile.zoom →
        raster.ColumnsRun (grid.sampleGrid tile) (· ≤ ·)) ∧
      ((0.0 : Float) ≤ grid.resolution tile.zoom → raster.transform.pixelHeight < (0.0 : Float) →
        raster.RowsRun (grid.sampleGrid tile) (· ≤ ·)) := by
  obtain ⟨g, hg⟩ : ∃ g, grid.sampleGrid tile = g := ⟨_, rfl⟩
  have hresolution : grid.resolution tile.zoom = g.resolution := by
    rw [← hg]
    rfl
  rw [hg, hresolution]
  refine ⟨?_, ?_, ?_, ?_, ?_⟩
  · rcases exists_bounds_of_runs (columns_run raster g) grid.tileSize with ⟨px₀, px₁, hcolumns⟩
    rcases exists_bounds_of_runs (rows_run raster g) grid.tileSize with ⟨py₀, py₁, hrows⟩
    refine ⟨px₀, px₁, py₀, py₁, ?_⟩
    intro px py hpx hpy
    rw [← hcolumns px hpx, ← hrows py hpy]
    exact isSome_pixelAt?_iff
  · exact (columns_run raster g).imp columnsRun_of_runs columnsRun_of_runs
  · exact (rows_run raster g).imp rowsRun_of_runs rowsRun_of_runs
  · intro hnonneg
    refine columnsRun_of_runs (runs_columns_of_nonneg ?_)
    intro r hr
    exact (hasValue_zero.le_iff hr).mp hnonneg
  · intro hnonneg hsouth
    refine rowsRun_of_runs (runs_rows_of_nonpos ?_)
    intro r p hr hp
    exact mul_nonpos_of_nonneg_of_nonpos ((hasValue_zero.le_iff hr).mp hnonneg)
      ((hp.lt_iff hasValue_zero).mp hsouth).le

theorem covered_rectangle_default :
    ∃ raster, SyntheticRaster.toRaster { width := 512, height := 512 } = .ok raster ∧
      (0.0 : Float) ≤ Config.defaultGrid.resolution 1 ∧
      raster.transform.pixelHeight < (0.0 : Float) ∧
      raster.ColumnsRun (Config.defaultGrid.sampleGrid ⟨1, 3, 0⟩) (· ≤ ·) ∧
      raster.RowsRun (Config.defaultGrid.sampleGrid ⟨1, 3, 0⟩) (· ≤ ·) := by
  rcases toRaster_default with ⟨raster, hraster, htransform⟩
  have hresolution : HasValue (Config.defaultGrid.resolution 1) (2000 / 2 ^ (1 + 1)) :=
    @hasValue_resolution 1 (by decide)
  have hnonneg : (0.0 : Float) ≤ Config.defaultGrid.resolution 1 :=
    (hasValue_zero.le_iff hresolution).mpr (by norm_num)
  have hsouth : raster.transform.pixelHeight < (0.0 : Float) :=
    (htransform.pixelHeight.lt_iff hasValue_zero).mpr (by norm_num)
  rcases covered_rectangle raster Config.defaultGrid ⟨1, 3, 0⟩ with ⟨_, _, _, hcolumns, hrows⟩
  exact ⟨raster, hraster, hnonneg, hsouth, hcolumns hnonneg, hrows hnonneg hsouth⟩

end Raster
end TileAudit
