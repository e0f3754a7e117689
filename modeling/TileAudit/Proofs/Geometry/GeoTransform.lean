import TileAudit.Geometry.GeoTransform
import TileAudit.Proofs.Binary64.Zeros

/-!
# Georeferences and the tags that state them

The coefficients of an admitted map are finite where they have to be, and the tags that a map is
stated by describe the same map.
-/

namespace TileAudit
namespace GeoTransform

open Binary64

/-!
## Admission

A map that is admitted has no rotation and a pixel size with a value, so divisions by its
coefficients are safe.
-/

theorem zero_beq_zero : ((0.0 : Float) == 0.0) = true :=
  (hasValue_zero.beq_iff hasValue_zero).mpr rfl

theorem isRotated_eq_false {a : Affine} (hrow : a.rowRotation = 0.0)
    (hcolumn : a.columnRotation = 0.0) : a.isRotated = false := by
  have hzero : ((0.0 : Float) != 0.0) = false := by
    rw [bne, zero_beq_zero]
    rfl
  unfold Affine.isRotated
  rw [hrow, hcolumn, hzero]
  rfl

theorem exists_ofAffine {a : Affine} (haligned : a.isRotated = false)
    (hsized : a.isDegenerate = false) : ∃ t : GeoTransform, ofAffine a = .ok t ∧ t.toAffine = a := by
  unfold ofAffine
  rw [dif_neg (by rw [haligned]; exact Bool.false_ne_true),
    dif_neg (by rw [hsized]; exact Bool.false_ne_true)]
  exact ⟨_, rfl, rfl⟩

theorem ofAffine_of_values {a : Affine} {width height : ℚ} (hrow : a.rowRotation = 0.0)
    (hcolumn : a.columnRotation = 0.0) (hwidth : HasValue a.pixelWidth width) (hpos : 0 < width)
    (hheight : HasValue a.pixelHeight height) (hne : height ≠ 0) :
    ∃ t : GeoTransform, ofAffine a = .ok t ∧ t.toAffine = a := by
  have hrotated : a.isRotated = false := isRotated_eq_false hrow hcolumn
  have hdegenerate : a.isDegenerate = false := by
    have hwidth_finite : a.pixelWidth.isFinite = true := hwidth.finite
    have hheight_finite : a.pixelHeight.isFinite = true := hheight.finite
    have hwidth_pos : ¬ a.pixelWidth ≤ 0.0 :=
      fun h => absurd ((hwidth.le_iff hasValue_zero).mp h) (not_le.mpr hpos)
    have hheight_ne : ¬ (a.pixelHeight == 0.0) = true :=
      fun h => hne ((hheight.beq_iff hasValue_zero).mp h)
    unfold Affine.isDegenerate
    rw [hwidth_finite, hheight_finite, decide_eq_false hwidth_pos,
      Bool.eq_false_iff.mpr hheight_ne]
    rfl
  exact exists_ofAffine hrotated hdegenerate

section

variable {a : Affine} {t : GeoTransform}

theorem toAffine_of_ofAffine (h : ofAffine a = .ok t) : t.toAffine = a := by
  unfold ofAffine at h
  split at h
  · cases h
  · split at h
    · cases h
    · cases h
      rfl

theorem exists_pixelWidth (t : GeoTransform) : ∃ width, HasValue t.pixelWidth width ∧ 0 < width := by
  have hsized := t.sized
  simp only [Affine.isDegenerate, Bool.or_eq_false_iff, Bool.not_eq_false',
    decide_eq_false_iff_not] at hsized
  rcases hasValue_of_isFinite hsized.1.1.1 with ⟨width, hwidth⟩
  refine ⟨width, hwidth, ?_⟩
  by_contra hnot
  exact hsized.1.1.2 ((hwidth.le_iff hasValue_zero).mpr (not_lt.mp hnot))

theorem exists_pixelHeight (t : GeoTransform) :
    ∃ height, HasValue t.pixelHeight height ∧ height ≠ 0 := by
  have hsized := t.sized
  simp only [Affine.isDegenerate, Bool.or_eq_false_iff, Bool.not_eq_false',
    decide_eq_false_iff_not] at hsized
  rcases hasValue_of_isFinite hsized.1.2 with ⟨height, hheight⟩
  refine ⟨height, hheight, ?_⟩
  intro hzero
  have hequal := (hheight.beq_iff hasValue_zero).mpr hzero
  rw [hsized.2] at hequal
  cases hequal

theorem rotations_eq_zero (t : GeoTransform) :
    (t.rowRotation == 0.0) = true ∧ (t.columnRotation == 0.0) = true := by
  have haligned := t.aligned
  simp only [Affine.isRotated, bne, Bool.or_eq_false_iff, Bool.not_eq_false'] at haligned
  exact haligned

/-- A map that spreads pixels over a box has a finite origin: otherwise its pixels would have no
finite size. -/
theorem isFinite_origin_of_northUp {extent : BoundingBox} {width height : Nat}
    (h : northUp extent width height = .ok t) :
    t.originX.isFinite = true ∧ t.originY.isFinite = true := by
  unfold northUp at h
  split at h
  · cases h
  · have haffine := toAffine_of_ofAffine h
    rcases exists_pixelWidth t with ⟨pixelWidth, hwidth, _⟩
    rcases exists_pixelHeight t with ⟨pixelHeight, hheight, _⟩
    rw [haffine] at hwidth hheight
    rw [haffine]
    exact ⟨(isFinite_of_sub (isFinite_of_div hwidth.isFinite)).2,
      (isFinite_of_sub (isFinite_of_div hheight.isFinite)).2⟩

end

/-!
## Tags

The tags state the pixel size and the place of the first corner. The map that they describe has the
same pixels bit by bit, and the same origin unless that is no place.
-/

theorem exists_ofTags (t : GeoTransform) :
    ∃ t' : GeoTransform, ofTags t.pixelScale t.tiepoint = .ok t' ∧ t'.toAffine =
      ⟨t.originX - 0.0 * t.pixelWidth, t.pixelWidth, 0.0, t.originY + 0.0 * -t.pixelHeight, 0.0,
        t.pixelHeight⟩ := by
  have htags : ofTags t.pixelScale t.tiepoint = ofAffine ⟨t.originX - 0.0 * t.pixelWidth,
      t.pixelWidth, 0.0, t.originY + 0.0 * -t.pixelHeight, 0.0, - -t.pixelHeight⟩ := rfl
  rw [htags, neg_neg_eq]
  exact exists_ofAffine (isRotated_eq_false rfl rfl) t.sized

theorem beq_iff_of_ofTags {t t' : GeoTransform} (h : ofTags t.pixelScale t.tiepoint = .ok t') :
    (t' == t) = true ↔ t.originX.isNaN = false ∧ t.originY.isNaN = false := by
  rcases exists_ofTags t with ⟨described, hdescribed, haffine⟩
  rw [h] at hdescribed
  cases hdescribed
  rcases exists_pixelWidth t with ⟨width, hwidth, _⟩
  rcases exists_pixelHeight t with ⟨height, hheight, _⟩
  have hcolumns : IsZero (0.0 * t.pixelWidth) := hasValue_zero.isZero.mul hwidth
  have hrows : IsZero (0.0 * -t.pixelHeight) := hasValue_zero.isZero.mul hheight.neg
  have hrotations := rotations_eq_zero t
  have hsame : (t' == t) = (t.originX - 0.0 * t.pixelWidth == t.originX &&
      t.pixelWidth == t.pixelWidth && (0.0 : Float) == t.rowRotation &&
      t.originY + 0.0 * -t.pixelHeight == t.originY && (0.0 : Float) == t.columnRotation &&
      t.pixelHeight == t.pixelHeight) := by
    show t'.toAffine.same t.toAffine = _
    rw [haffine]
    rfl
  rw [hsame, (hwidth.beq_iff hwidth).mpr rfl, (hheight.beq_iff hheight).mpr rfl,
    BEq.symm hrotations.1, BEq.symm hrotations.2]
  simp only [Bool.and_true, Bool.and_eq_true]
  rw [(hcolumns.sub t.originX).beq_iff, (hrows.add t.originY).beq_iff]

theorem ofTags_of_transform (t : GeoTransform) (hx : t.originX.isFinite = true)
    (hy : t.originY.isFinite = true) :
    ∃ t', ofTags t.pixelScale t.tiepoint = .ok t' ∧ (t' == t) = true := by
  rcases exists_ofTags t with ⟨t', htags, _⟩
  exact ⟨t', htags, (beq_iff_of_ofTags htags).mpr ⟨isNaN_eq_false hx, isNaN_eq_false hy⟩⟩

/-- The tags of an admitted map describe an admitted map with pixels of the same size, bit by bit.
It compares as equal to the first one exactly if neither coordinate of the origin is a NaN: an
infinite one comes back, and so does a zero, though not always with its sign. -/
theorem ofTags_restores {a : Affine} {t : GeoTransform} (h : ofAffine a = .ok t) :
    ∃ t', ofTags t.pixelScale t.tiepoint = .ok t' ∧
      t'.pixelWidth.toBits = a.pixelWidth.toBits ∧ t'.pixelHeight.toBits = a.pixelHeight.toBits ∧
      ((t' == t) = true ↔ a.originX.isNaN = false ∧ a.originY.isNaN = false) := by
  rcases exists_ofTags t with ⟨t', htags, haffine⟩
  have hequal := beq_iff_of_ofTags htags
  rw [toAffine_of_ofAffine h] at haffine hequal
  refine ⟨t', htags, ?_, ?_, hequal⟩
  · rw [haffine]
  · rw [haffine]

theorem ofTags_restores_infinite_origin :
    ∃ t t', ofAffine ⟨infinity, 2.0, -0.0, -0.0, -0.0, 0.5⟩ = .ok t ∧
      ofTags t.pixelScale t.tiepoint = .ok t' ∧
      t'.pixelHeight.toBits = (0.5 : Float).toBits ∧ (t' == t) = true := by
  rcases exists_ofAffine (a := ⟨infinity, 2.0, -0.0, -0.0, -0.0, 0.5⟩) (by decide +kernel)
    (by decide +kernel) with ⟨t, hadmitted, _⟩
  rcases ofTags_restores hadmitted with ⟨t', htags, _, hheight, hequal⟩
  exact ⟨t, t', hadmitted, htags, hheight, hequal.mpr ⟨by decide +kernel, by decide +kernel⟩⟩

end GeoTransform
end TileAudit
