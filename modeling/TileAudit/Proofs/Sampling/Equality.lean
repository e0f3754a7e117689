import TileAudit.Proofs.Geometry.GeoTransform
import TileAudit.Sampling

/-!
# Sampling equal rasters

Rasters that compare as equal may differ in the signs of zeros among their coefficients. No
sampled tile shows such a difference.
-/

namespace TileAudit

open Binary64

namespace GeoTransform

variable {t t' : GeoTransform}

theorem sameNumbers_of_beq (h : (t == t') = true) :
    SameNumber t.originX t'.originX ∧ t.pixelWidth = t'.pixelWidth ∧
      SameNumber t.originY t'.originY ∧ t.pixelHeight = t'.pixelHeight := by
  rcases exists_pixelWidth t with ⟨width, hwidth, hpos⟩
  rcases exists_pixelHeight t with ⟨height, hheight, hne⟩
  change t.toAffine.same t'.toAffine = true at h
  simp only [Affine.same, Bool.and_eq_true] at h
  refine ⟨sameNumber_of_beq h.1.1.1.1.1, ?_, sameNumber_of_beq h.1.1.2, ?_⟩
  · exact (sameNumber_of_beq h.1.1.1.1.2).eq_of_not_isZero (hwidth.not_isZero hpos.ne')
  · exact (sameNumber_of_beq h.2).eq_of_not_isZero (hheight.not_isZero hne)

end GeoTransform

namespace Raster

variable {raster raster' : Raster}

theorem parts_of_beq (h : (raster == raster') = true) :
    raster.samples = raster'.samples ∧ (raster.transform == raster'.transform) = true ∧
      raster.epsg = raster'.epsg := by
  change (raster.height == raster'.height && raster.width == raster'.width &&
    raster.bands == raster'.bands && raster.samples.bytes == raster'.samples.bytes &&
    raster.transform == raster'.transform && raster.epsg == raster'.epsg) = true at h
  simp only [Bool.and_eq_true, beq_iff_eq] at h
  rcases h with ⟨⟨⟨⟨⟨hheight, hwidth⟩, hbands⟩, hbytes⟩, htransform⟩, hepsg⟩
  have hsame : raster.samples.bytes = raster'.samples.bytes :=
    ByteArray.ext (eq_of_beq hbytes)
  refine ⟨?_, htransform, hepsg⟩
  rcases raster with ⟨⟨height, width, bands, bytes, hsize⟩, transform, epsg, hfilled⟩
  rcases raster' with ⟨⟨height', width', bands', bytes', hsize'⟩, transform', epsg', hfilled'⟩
  cases hheight
  cases hwidth
  cases hbands
  cases hsame
  rfl

theorem columnAt?_eq_of_beq (h : (raster == raster') = true) (x : Float) :
    raster.columnAt? x = raster'.columnAt? x := by
  rcases parts_of_beq h with ⟨hsamples, htransform, _⟩
  rcases GeoTransform.sameNumbers_of_beq htransform with ⟨horigin, hwidth, _, _⟩
  rcases GeoTransform.exists_pixelWidth raster'.transform with ⟨width, hvalue, hpos⟩
  unfold columnAt? Affine.toColumn Raster.width
  rw [hsamples, hwidth]
  exact ((horigin.sub x).div hvalue hpos.ne').cell? _

theorem rowAt?_eq_of_beq (h : (raster == raster') = true) (y : Float) :
    raster.rowAt? y = raster'.rowAt? y := by
  rcases parts_of_beq h with ⟨hsamples, htransform, _⟩
  rcases GeoTransform.sameNumbers_of_beq htransform with ⟨_, _, horigin, hheight⟩
  rcases GeoTransform.exists_pixelHeight raster'.transform with ⟨height, hvalue, hne⟩
  unfold rowAt? Affine.toRow Raster.height
  rw [hsamples, hheight]
  exact ((horigin.sub y).div hvalue hne).cell? _

theorem sample_eq_of_beq (h : (raster == raster') = true) (g : SampleGrid) :
    raster.sample g = raster'.sample g := by
  have hcolumns : raster.sourceColumns g = raster'.sourceColumns g := by
    unfold sourceColumns
    congr 1
    funext px
    exact columnAt?_eq_of_beq h _
  have hrows : raster.sourceRows g = raster'.sourceRows g := by
    unfold sourceRows
    congr 1
    funext py
    exact rowAt?_eq_of_beq h _
  have hcolours : raster.colourAt = raster'.colourAt := by
    funext col row
    unfold colourAt sample?
    rw [(parts_of_beq h).1]
  unfold sample
  rw [hcolumns, hrows, hcolours]

end Raster

end TileAudit
