import TileAudit.Proofs.Binary64.Scaling
import TileAudit.Proofs.GeoTiff.Decoding
import TileAudit.Proofs.GeoTiff.Refusal

/-!
# Maps that spread pixels over a box

A map that spreads pixels over a box has no rotation, a positive pixel width and a pixel height
other than zero, so a place has a row and a column by divisions that are safe. A box whose west and
east are exchanged is refused. One whose south and north are exchanged is not: its rows run north.
-/

namespace TileAudit

open Binary64

namespace GeoTransform

section

variable {t : GeoTransform} {height : ℚ} {y y' : Float}

theorem toRow_le (hheight : HasValue t.pixelHeight height)
    (horder : (0 < height ∧ y ≤ y') ∨ (height < 0 ∧ y' ≤ y)) (hrow : (t.toRow y).isFinite = true)
    (hrow' : (t.toRow y').isFinite = true) : t.toRow y ≤ t.toRow y' := by
  have hoffset := isFinite_of_div hrow
  have hoffset' := isFinite_of_div hrow'
  rcases hasValue_of_isFinite hrow with ⟨r, hr⟩
  rcases hasValue_of_isFinite hrow' with ⟨r', hr'⟩
  rcases hasValue_of_isFinite hoffset with ⟨d, hd⟩
  rcases hasValue_of_isFinite hoffset' with ⟨d', hd'⟩
  rcases hasValue_of_isFinite (isFinite_of_sub hoffset).1 with ⟨a, ha⟩
  rcases hasValue_of_isFinite (isFinite_of_sub hoffset').1 with ⟨b, hb⟩
  rcases hasValue_of_isFinite (isFinite_of_sub hoffset).2 with ⟨origin, horigin⟩
  have hline := roundsLine_sub_right horigin
  have hordered : height ≠ 0 ∧ height⁻¹ * d ≤ height⁻¹ * d' := by
    rcases horder with ⟨hpos, hle⟩ | ⟨hneg, hle⟩
    · have hab := mul_le_mul_of_nonneg_left ((ha.le_iff hb).mp hle) zero_le_one
      exact ⟨hpos.ne', mul_le_mul_of_nonneg_left (hline.le_of_le ha hb hab hd hd')
        (inv_pos.mpr hpos).le⟩
    · have hba := mul_le_mul_of_nonneg_left ((hb.le_iff ha).mp hle) zero_le_one
      exact ⟨hneg.ne, mul_le_mul_of_nonpos_left (hline.le_of_le hb ha hba hd' hd)
        (inv_lt_zero.mpr hneg).le⟩
  have hrows := (roundsLine_div_right hheight hordered.1).le_of_le hd hd' hordered.2 hr hr'
  exact (hr.le_iff hr').mpr hrows

end

/-- What is wrong with a box and a number of pixels for it, where the first of two reasons
counts. -/
inductive Misfits (box : BoundingBox) (width height : Nat) : RasterFault → Prop where
  | noPixels : width = 0 ∨ height = 0 → Misfits box width height .noPixels
  | degenerate : 0 < width → 0 < height →
      (¬ (∃ q, HasValue (box.width / Float.ofNat width) q ∧ 0 < q) ∨
        ¬ ∃ q, HasValue ((box.miny - box.maxy) / Float.ofNat height) q ∧ q ≠ 0) →
      Misfits box width height (.degeneratePixel (box.width / Float.ofNat width)
        ((box.miny - box.maxy) / Float.ofNat height))

/-- A map over a box that is not reversed from west to east. Its rows run south where the box is not
reversed from south to north, and north where it is. -/
structure Spans (t : GeoTransform) (box : BoundingBox) : Prop where
  xs_finite : box.minx.isFinite = true ∧ box.maxx.isFinite = true
  ys_finite : box.miny.isFinite = true ∧ box.maxy.isFinite = true
  origin_eq : t.origin = box.topLeft
  rotations_eq : t.rowRotation = 0.0 ∧ t.columnRotation = 0.0
  west_lt_east : box.minx < box.maxx
  width_pos : ∃ width, HasValue t.pixelWidth width ∧ 0 < width
  height_ne : ∃ height, HasValue t.pixelHeight height ∧ height ≠ 0 ∧
    (height < 0 ↔ box.miny < box.maxy) ∧ (0 < height ↔ box.maxy < box.miny)
  southward : box.miny < box.maxy → ∀ {y y'}, y' ≤ y → (t.toRow y).isFinite = true →
    (t.toRow y').isFinite = true → t.toRow y ≤ t.toRow y'
  northward : box.maxy < box.miny → ∀ {y y'}, y ≤ y' → (t.toRow y).isFinite = true →
    (t.toRow y').isFinite = true → t.toRow y ≤ t.toRow y'

section

variable {a : Affine} {box : BoundingBox} {width height : Nat} {t : GeoTransform}
  {fault : RasterFault}

theorem not_usable_of_isDegenerate (hrow : a.rowRotation = 0.0) (hcolumn : a.columnRotation = 0.0)
    (h : a.isDegenerate = true) :
    ¬ (∃ q, HasValue a.pixelWidth q ∧ 0 < q) ∨ ¬ ∃ q, HasValue a.pixelHeight q ∧ q ≠ 0 := by
  by_contra husable
  rw [not_or, not_not, not_not] at husable
  rcases husable with ⟨⟨q, hq, hpos⟩, ⟨q', hq', hne⟩⟩
  rcases ofAffine_of_values hrow hcolumn hq hpos hq' hne with ⟨t, _, haffine⟩
  have hsized := t.sized
  rw [haffine, h] at hsized
  cases hsized

theorem exists_misfits_of_error (h : northUp box width height = .error fault) :
    Misfits box width height fault := by
  unfold northUp at h
  split at h
  · next hnone =>
      cases h
      exact .noPixels hnone
  · next hsome =>
      unfold ofAffine at h
      split at h
      · next hrotated =>
          rw [isRotated_eq_false rfl rfl] at hrotated
          cases hrotated
      · split at h
        · next hdegenerate =>
            cases h
            exact .degenerate (by omega) (by omega)
              (not_usable_of_isDegenerate rfl rfl hdegenerate)
        · cases h

theorem toAffine_of_northUp (h : northUp box width height = .ok t) :
    0 < width ∧ 0 < height ∧ t.toAffine =
      ⟨box.minx, box.width / Float.ofNat width, 0.0, box.maxy, 0.0,
        (box.miny - box.maxy) / Float.ofNat height⟩ := by
  unfold northUp at h
  split at h
  · cases h
  · exact ⟨by omega, by omega, toAffine_of_ofAffine h⟩

theorem northUp_eq_error_iff :
    northUp box width height = .error fault ↔ Misfits box width height fault := by
  constructor
  · exact exists_misfits_of_error
  · intro h
    cases hmap : northUp box width height with
    | error found =>
        have hfound := exists_misfits_of_error hmap
        cases h with
        | noPixels hnone =>
            cases hfound with
            | noPixels => rfl
            | degenerate hwidth hheight => omega
        | degenerate hwidth hheight =>
            cases hfound with
            | noPixels hnone => omega
            | degenerate => rfl
    | ok t =>
        rcases toAffine_of_northUp hmap with ⟨hwidth, hheight, haffine⟩
        have hw := exists_pixelWidth t
        have hh := exists_pixelHeight t
        rw [haffine] at hw hh
        cases h with
        | noPixels hnone => omega
        | degenerate _ _ hunusable =>
            rcases hunusable with hwidth' | hheight'
            · exact absurd hw hwidth'
            · exact absurd hh hheight'

theorem spans_of_northUp (h : northUp box width height = .ok t) : t.Spans box := by
  rcases toAffine_of_northUp h with ⟨hcolumns, hrows, haffine⟩
  rcases exists_pixelWidth t with ⟨q, hq, hpos⟩
  rcases exists_pixelHeight t with ⟨q', hq', hne⟩
  have hwidth := hq
  have hheight := hq'
  rw [haffine] at hwidth hheight
  rcases sides_of_part hcolumns hwidth hpos.ne' with ⟨east, west, heast, hwest, hright, _⟩
  rcases sides_of_part hrows hheight hne with ⟨south, north, hsouth, hnorth, hup, hdown⟩
  rw [← hnorth.lt_iff hsouth] at hup
  rw [← hsouth.lt_iff hnorth] at hdown
  exact
    { xs_finite := ⟨hwest.isFinite, heast.isFinite⟩
      ys_finite := ⟨hsouth.isFinite, hnorth.isFinite⟩
      origin_eq := by
        show (⟨t.originX, t.originY⟩ : Point) = _
        rw [haffine]
        rfl
      rotations_eq := by
        rw [haffine]
        exact ⟨rfl, rfl⟩
      west_lt_east := (hwest.lt_iff heast).mpr (hright.mp hpos)
      width_pos := ⟨q, hq, hpos⟩
      height_ne := ⟨q', hq', hne, hdown, hup⟩
      southward := fun hbox _ _ hle => toRow_le hq' (Or.inr ⟨hdown.mpr hbox, hle⟩)
      northward := fun hbox _ _ hle => toRow_le hq' (Or.inl ⟨hup.mpr hbox, hle⟩) }

end

end GeoTransform

namespace SyntheticRaster

variable {spec : SyntheticRaster} {t : GeoTransform} {fault : RasterFault}

theorem toRaster_eq_error_iff :
    spec.toRaster = .error (.invalidRaster fault) ↔ spec.transform = .error fault := by
  constructor
  · intro h
    cases htransform : spec.transform with
    | error found =>
        rw [toRaster_of_transform_error htransform] at h
        cases h
        rfl
    | ok t =>
        by_cases haddressable : spec.IsAddressable
        · rw [toRaster_of_transform htransform haddressable] at h
          cases h
        · rw [toRaster_of_not_addressable htransform haddressable] at h
          cases h
  · exact toRaster_of_transform_error

end SyntheticRaster

/-- For every box and every number of pixels there is a map that spans the box, or a reason why not;
a raster over the box has that map, in memory and in a file, and is refused for that reason. The
rows of the map run south unless the box is reversed from south to north. -/
theorem GeoTransform.northUp_orientation [TiffCodec] (box : BoundingBox) (width height : Nat)
    (epsg : UInt16) (compression : Compression) :
    (∀ fault, northUp box width height = .error fault ↔ Misfits box width height fault) ∧
    (∀ t, northUp box width height = .ok t → 0 < width ∧ 0 < height ∧ t.Spans box) ∧
    (SyntheticRaster.mk width height box epsg compression).transform = northUp box width height ∧
    (∀ raster, (SyntheticRaster.mk width height box epsg compression).toRaster = .ok raster →
      northUp box width height = .ok raster.transform) ∧
    (∀ file, GeoTiff.encode ⟨width, height, box, epsg, compression⟩ = .ok file →
      ∃ t samples, northUp box width height = .ok t ∧
        (SyntheticRaster.mk width height box epsg compression).pixels? = some samples ∧
        TiffCodec.encode (GeoTiff.pictureOf ⟨width, height, box, epsg, compression⟩ t samples) =
          .ok file) ∧
    (∀ fault, (SyntheticRaster.mk width height box epsg compression).toRaster =
        .error (.invalidRaster fault) ↔ Misfits box width height fault) ∧
    ∀ fault, Misfits box width height fault →
      GeoTiff.encode ⟨width, height, box, epsg, compression⟩ = .error (.invalidRaster fault) := by
  refine ⟨fun _ => northUp_eq_error_iff, ?_, rfl, ?_, ?_, ?_, ?_⟩
  · intro t h
    rcases toAffine_of_northUp h with ⟨hwidth, hheight, _⟩
    exact ⟨hwidth, hheight, spans_of_northUp h⟩
  · intro raster h
    exact (SyntheticRaster.parts_of_toRaster h).1
  · intro file h
    rcases GeoTiff.parts_of_encode h with ⟨t, samples, hcheck, hpixels, hfile⟩
    exact ⟨t, samples, (GeoTiff.parts_of_check hcheck).1, hpixels, hfile⟩
  · intro fault
    exact SyntheticRaster.toRaster_eq_error_iff.trans northUp_eq_error_iff
  · intro fault h
    exact GeoTiff.encode_of_check_error
      (GeoTiff.check_of_transform_error (northUp_eq_error_iff.mpr h))

theorem GeoTransform.northUp_orientation_reversed :
    ∃ t height, northUp ⟨0.0, 10.0, 10.0, 0.0⟩ 10 10 = .ok t ∧ HasValue t.pixelHeight height ∧
      0 < height := by
  have hspans := (northUp_orientation ⟨0.0, 10.0, 10.0, 0.0⟩ 10 10 3857 .none).2.1
  cases hmap : northUp ⟨0.0, 10.0, 10.0, 0.0⟩ 10 10 with
  | error fault =>
      have hadmitted : (northUp ⟨0.0, 10.0, 10.0, 0.0⟩ 10 10).isOk = true := by decide +kernel
      rw [hmap] at hadmitted
      cases hadmitted
  | ok t =>
      rcases (hspans t hmap).2.2.height_ne with ⟨height, hheight, _, _, hnorth⟩
      exact ⟨t, height, rfl, hheight, hnorth.mpr (by decide +kernel)⟩

end TileAudit
