import TileAudit.Proofs.Sampling.Inside

/-!
# Corners of pixels

Where no step on the way to the corner of a pixel is rounded, the map leads to the corner and back
again, and the corner lies in the pixel that it belongs to. The way back divides by the size of a
pixel, so it meets the number of the pixel itself and not a neighbour of it.
-/

namespace TileAudit

open Binary64

namespace Binary64

/-!
## Numbers of cells

A coordinate is compared with the number of cells as a binary number, which hides the last cell of
`2 ^ 53 + 1`.
-/

theorem isRepresentable_ofNat_le {n : Nat} (h : n ≤ 2 ^ 53) : IsRepresentable n := by
  rcases Nat.lt_or_eq_of_le h with hsmall | rfl
  · exact isRepresentable_ofNat hsmall
  · have hpower := isRepresentable_two_pow (n := 53) (by norm_num)
    exact_mod_cast hpower

section

variable {x : Float} {index count : Nat}

theorem ofNat_lt_ofNat_iff (hindex : index ≤ 2 ^ 53) (hlt : index < count) :
    Float.ofNat index < Float.ofNat count ↔ ¬ (index = 2 ^ 53 ∧ count = 2 ^ 53 + 1) := by
  have hvalue := hasValue_ofNat_of_isRepresentable (isRepresentable_ofNat_le hindex)
  rcases exists_isRounded_ofNat count with ⟨limit, hlimit⟩
  have hbelow : ∀ next : Nat, OnGrid next → index < next → next ≤ count →
      Float.ofNat index < Float.ofNat count := by
    intro next hnext hindex hcount
    rw [hlimit.lt_iff hvalue]
    have hindex' : (index : ℚ) < next := by exact_mod_cast hindex
    have hcount' : (next : ℚ) ≤ count := by exact_mod_cast hcount
    exact lt_of_lt_of_le hindex' (hlimit.nearest.ge hnext hcount')
  rcases Nat.lt_or_eq_of_le hindex with hsmall | hlast
  · have hnext : IsRepresentable (index + 1 : Nat) := isRepresentable_ofNat_le hsmall
    exact iff_of_true (hbelow _ hnext.onGrid (by omega) hlt) (by omega)
  · by_cases hcount : count = 2 ^ 53 + 1
    · refine iff_of_false ?_ (not_not_intro ⟨hlast, hcount⟩)
      rw [hlast, hcount]
      decide +kernel
    · have hnext : OnGrid (2 * (2 ^ 52 + 1 : Nat) : Nat) := by
        have hhalf : IsRepresentable (2 ^ 52 + 1 : Nat) := isRepresentable_ofNat (by norm_num)
        have hdouble := hhalf.onGrid.two_mul
        exact_mod_cast hdouble
      exact iff_of_true (hbelow _ hnext (by omega) (by omega)) (by omega)

theorem cell?_of_index (hx : HasValue x index) (hindex : index ≤ 2 ^ 53) (hlt : index < count) :
    cell? x count =
      if index = 2 ^ 53 ∧ count = 2 ^ 53 + 1 then none else some index := by
  have hvalue := hasValue_ofNat_of_isRepresentable (isRepresentable_ofNat_le hindex)
  rcases exists_limit count with ⟨limit, hlimit, hcell⟩
  have hbelow := ofNat_lt_ofNat_iff hindex hlt
  rw [hlimit.lt_iff hvalue] at hbelow
  have hfits : min ⌊(index : ℚ)⌋₊ (UInt64.size - 1) = index := by
    rw [Nat.floor_natCast]
    apply min_eq_left
    show index ≤ 2 ^ 64 - 1
    omega
  rw [hcell hx, hfits]
  by_cases hhidden : index = 2 ^ 53 ∧ count = 2 ^ 53 + 1
  · rw [if_pos hhidden, if_neg fun hin => hbelow.mp hin.2 hhidden]
  · rw [if_neg hhidden, if_pos ⟨Nat.cast_nonneg index, hbelow.mpr hhidden⟩]

end

/-- The edge before a cell of an axis that starts at an origin. Neither the distance to the edge nor
its place is rounded. -/
structure ExactEdge (origin size : Float) (index : Nat) (start step : ℚ) : Prop where
  origin_eq : HasValue origin start
  size_eq : HasValue size step
  index_le : index ≤ 2 ^ 53
  distance : IsRepresentable (index * step)
  place : IsRepresentable (start + index * step)

namespace ExactEdge

variable {origin size x : Float} {index : Nat} {start step : ℚ}

theorem hasValue_index (h : ExactEdge origin size index start step) :
    HasValue (Float.ofNat index) index :=
  hasValue_ofNat_of_isRepresentable (isRepresentable_ofNat_le h.index_le)

theorem hasValue_distance (h : ExactEdge origin size index start step) :
    HasValue (Float.ofNat index * size) (index * step) :=
  (h.hasValue_index.mul h.size_eq) h.distance

theorem hasValue_quotient (h : ExactEdge origin size index start step) (hne : step ≠ 0)
    (hx : HasValue x (start + index * step)) : HasValue ((x - origin) / size) index := by
  have hdifference := hx.sub h.origin_eq
  rw [add_sub_cancel_left] at hdifference
  have hquotient := (hdifference h.distance).div h.size_eq hne
  rw [mul_div_cancel_right₀ _ hne] at hquotient
  exact hquotient (isRepresentable_ofNat_le h.index_le)

end ExactEdge

end Binary64

namespace GeoTransform

variable {t : GeoTransform} {col row : Nat} {west north width height : ℚ} {x y : Float}

theorem toWorld_corner (hx : ExactEdge t.originX t.pixelWidth col west width)
    (hy : ExactEdge t.originY t.pixelHeight row north height) :
    HasValue (t.toWorld (Float.ofNat col) (Float.ofNat row)).x (west + col * width) ∧
      HasValue (t.toWorld (Float.ofNat col) (Float.ofNat row)).y (north + row * height) := by
  have hrotations := t.rotations_eq_zero
  have hacross : IsZero (Float.ofNat row * t.rowRotation) :=
    hy.hasValue_index.mul_isZero (isZero_of_beq hrotations.1)
  have hdown : IsZero (Float.ofNat col * t.columnRotation) :=
    hx.hasValue_index.mul_isZero (isZero_of_beq hrotations.2)
  have heasting := (hx.origin_eq.add hx.hasValue_distance) hx.place
  have hnorthing := ((hy.origin_eq.add_isZero hdown).add hy.hasValue_distance) hy.place
  exact ⟨heasting.add_isZero hacross, hnorthing⟩

theorem hasValue_toColumn (hedge : ExactEdge t.originX t.pixelWidth col west width)
    (hx : HasValue x (west + col * width)) : HasValue (t.toColumn x) col := by
  rcases exists_pixelWidth t with ⟨width', hwidth, hpos⟩
  rw [hwidth.unique hedge.size_eq] at hpos
  exact hedge.hasValue_quotient hpos.ne' hx

theorem hasValue_toRow (hedge : ExactEdge t.originY t.pixelHeight row north height)
    (hy : HasValue y (north + row * height)) : HasValue (t.toRow y) row := by
  rcases exists_pixelHeight t with ⟨height', hheight, hne⟩
  rw [hheight.unique hedge.size_eq] at hne
  exact hedge.hasValue_quotient hne hy

end GeoTransform

namespace Raster

section

variable {raster : Raster} {col row : Nat} {west north width height : ℚ} {x y : Float}

theorem pixelAt?_corner_iff (hcol : col < raster.width) (hrow : row < raster.height)
    (hedgeX : ExactEdge raster.transform.originX raster.transform.pixelWidth col west width)
    (hedgeY : ExactEdge raster.transform.originY raster.transform.pixelHeight row north height)
    (hx : HasValue x (west + col * width)) (hy : HasValue y (north + row * height)) :
    raster.pixelAt? x y = some (col, row) ↔
      ¬ (col = 2 ^ 53 ∧ raster.width = 2 ^ 53 + 1) ∧
        ¬ (row = 2 ^ 53 ∧ raster.height = 2 ^ 53 + 1) := by
  have hcolumn : raster.columnAt? x =
      if col = 2 ^ 53 ∧ raster.width = 2 ^ 53 + 1 then none else some col :=
    cell?_of_index (GeoTransform.hasValue_toColumn hedgeX hx) hedgeX.index_le hcol
  have hrows : raster.rowAt? y =
      if row = 2 ^ 53 ∧ raster.height = 2 ^ 53 + 1 then none else some row :=
    cell?_of_index (GeoTransform.hasValue_toRow hedgeY hy) hedgeY.index_le hrow
  rw [pixelAt?_eq_some_iff, hcolumn, hrows]
  simp only [ite_eq_right_iff, reduceCtorEq, imp_false]

end

/-- A corner of a pixel whose place is not rounded: the map leads there exactly, every way of
writing the corner leads back to exactly the column and the row, and the corner lies in the pixel.
The sides of the raster are rounded when they are compared with a coordinate, which hides the last
pixel of a side of `2 ^ 53 + 1` pixels and no other. -/
theorem corners_exact (raster : Raster) {col row : Nat} {west north width height : ℚ}
    (hcol : col < raster.width) (hrow : row < raster.height)
    (hedgeX : ExactEdge raster.transform.originX raster.transform.pixelWidth col west width)
    (hedgeY : ExactEdge raster.transform.originY raster.transform.pixelHeight row north height) :
    HasValue (raster.transform.toWorld (Float.ofNat col) (Float.ofNat row)).x
        (west + col * width) ∧
      HasValue (raster.transform.toWorld (Float.ofNat col) (Float.ofNat row)).y
        (north + row * height) ∧
      ∀ x y, HasValue x (west + col * width) → HasValue y (north + row * height) →
        HasValue (raster.transform.toColumn x) col ∧ HasValue (raster.transform.toRow y) row ∧
          (raster.width ≤ 2 ^ 53 → raster.height ≤ 2 ^ 53 →
            raster.pixelAt? x y = some (col, row)) ∧
          (raster.pixelAt? x y = some (col, row) ↔
            ¬ (col = 2 ^ 53 ∧ raster.width = 2 ^ 53 + 1) ∧
              ¬ (row = 2 ^ 53 ∧ raster.height = 2 ^ 53 + 1)) := by
  have hcorner := GeoTransform.toWorld_corner hedgeX hedgeY
  refine ⟨hcorner.1, hcorner.2, ?_⟩
  intro x y hx hy
  have hpixel := pixelAt?_corner_iff hcol hrow hedgeX hedgeY hx hy
  refine ⟨GeoTransform.hasValue_toColumn hedgeX hx, GeoTransform.hasValue_toRow hedgeY hy, ?_,
    hpixel⟩
  intro hwidth hheight
  exact hpixel.mpr ⟨by omega, by omega⟩

theorem hasValue_one : HasValue 1.0 1 :=
  hasValue_decimal (m := 10) (by norm_num)
    (isRepresentable_ofNat (n := 1) (by norm_num)) (by norm_num)

def unitRow (count : Nat) (h : 0 < count) : Raster where
  samples := .ofFn 1 count 1 fun _ _ _ => 0
  transform := ⟨⟨0.0, 1.0, 0.0, 0.0, 0.0, -1.0⟩, by decide +kernel, by decide +kernel⟩
  epsg := 4326
  filled := ⟨Nat.one_pos, h, Nat.one_pos⟩

/-- The last pixel of a row that is one pixel too long is not found at its own corner. -/
theorem corner_hidden :
    ¬ ∀ (raster : Raster) (col row : Nat) (west north width height : ℚ) (corner : Point),
      col < raster.width → row < raster.height →
      ExactEdge raster.transform.originX raster.transform.pixelWidth col west width →
      ExactEdge raster.transform.originY raster.transform.pixelHeight row north height →
      raster.transform.toWorld (Float.ofNat col) (Float.ofNat row) = corner →
        raster.pixelAt? corner.x corner.y = some (col, row) := by
  intro hall
  have hpos : 0 < 2 ^ 53 + 1 := by norm_num
  have hlast : IsRepresentable (0 + (2 ^ 53 : Nat) * 1) := by
    rw [zero_add, mul_one]
    exact isRepresentable_ofNat_le le_rfl
  have hfirst : IsRepresentable (0 + (0 : Nat) * (-1)) := by
    rw [zero_add, Nat.cast_zero, zero_mul]
    exact hasValue_zero.isRepresentable
  have hedgeX : ExactEdge (unitRow _ hpos).transform.originX
      (unitRow _ hpos).transform.pixelWidth (2 ^ 53) 0 1 :=
    ⟨hasValue_zero, hasValue_one, le_rfl, by rwa [zero_add] at hlast, hlast⟩
  have hedgeY : ExactEdge (unitRow _ hpos).transform.originY
      (unitRow _ hpos).transform.pixelHeight 0 0 (-1) :=
    ⟨hasValue_zero, hasValue_one.neg, Nat.zero_le _, by rwa [zero_add] at hfirst, hfirst⟩
  have hcol : 2 ^ 53 < (unitRow _ hpos).width := Nat.lt_succ_self _
  have hrow : 0 < (unitRow _ hpos).height := Nat.one_pos
  have hcorner := GeoTransform.toWorld_corner hedgeX hedgeY
  have hfound := hall _ _ _ _ _ _ _ _ hcol hrow hedgeX hedgeY rfl
  exact ((pixelAt?_corner_iff hcol hrow hedgeX hedgeY hcorner.1 hcorner.2).mp hfound).1 ⟨rfl, rfl⟩

theorem exactEdges_default {t : GeoTransform} (h : IsDefaultTransform t) {col row : Nat}
    (hcol : col ≤ 512) (hrow : row ≤ 512) :
    ExactEdge t.originX t.pixelWidth col (-500000) (15625 / 8) ∧
      ExactEdge t.originY t.pixelHeight row 500000 (-(15625 / 8)) := by
  have heighths : ∀ n : ℤ, |n| < 2 ^ 53 → ∀ q : ℚ, (n : ℚ) / 2 ^ 3 = q → IsRepresentable q := by
    intro n hn q hq
    rw [← hq]
    exact isRepresentable_dyadic hn (by norm_num)
  refine ⟨⟨h.originX, h.pixelWidth, by omega, ?_, ?_⟩, ⟨h.originY, h.pixelHeight, by omega, ?_, ?_⟩⟩
  · refine heighths (15625 * col) (abs_lt.mpr ⟨by omega, by omega⟩) _ ?_
    push_cast
    ring
  · refine heighths (15625 * col - 4000000) (abs_lt.mpr ⟨by omega, by omega⟩) _ ?_
    push_cast
    ring
  · refine heighths (-(15625 * row)) (abs_lt.mpr ⟨by omega, by omega⟩) _ ?_
    push_cast
    ring
  · refine heighths (4000000 - 15625 * row) (abs_lt.mpr ⟨by omega, by omega⟩) _ ?_
    push_cast
    ring

theorem corners_exact_first_row :
    ∃ raster, SyntheticRaster.toRaster { width := 512, height := 512 } = .ok raster ∧
      511 < raster.width ∧ 0 < raster.height ∧
      ExactEdge raster.transform.originX raster.transform.pixelWidth 511 (-500000) (15625 / 8) ∧
      ExactEdge raster.transform.originY raster.transform.pixelHeight 0 500000 (-(15625 / 8)) ∧
      ∃ corner, raster.transform.toWorld (Float.ofNat 511) (Float.ofNat 0) = corner ∧
        raster.pixelAt? corner.x corner.y = some (511, 0) := by
  rcases toRaster_default with ⟨raster, hraster, htransform⟩
  rcases SyntheticRaster.size_of_toRaster hraster with ⟨hwidth, hheight⟩
  have hedges := exactEdges_default htransform (by norm_num : 511 ≤ 512) (by norm_num : 0 ≤ 512)
  have hcol : 511 < raster.width := by
    rw [hwidth]
    decide
  have hrow : 0 < raster.height := by
    rw [hheight]
    decide
  rcases raster.corners_exact hcol hrow hedges.1 hedges.2 with ⟨hx, hy, hback⟩
  rcases hback _ _ hx hy with ⟨_, _, hpixel, _⟩
  refine ⟨raster, hraster, hcol, hrow, hedges.1, hedges.2, _, rfl, hpixel ?_ ?_⟩
  · rw [hwidth]
    norm_num
  · rw [hheight]
    norm_num

end Raster
end TileAudit
