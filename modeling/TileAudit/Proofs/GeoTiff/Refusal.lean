import TileAudit.Audit
import TileAudit.Proofs.Effect.Run
import TileAudit.Proofs.FileTree.Contents
import TileAudit.Proofs.Geometry.GeoTransform
import TileAudit.Tiff.Codec

/-!
# Descriptions that are refused

A raster file is made before its description is checked. So a description that is refused leaves an
empty file where the raster was to be, whatever was there before, and changes nothing else.
-/

namespace TileAudit

/-!
## What the checks refuse

The checks look at the sides, at the size of a pixel and at the limits of the file, in this order.
-/

namespace SyntheticRaster

def affine (spec : SyntheticRaster) : Affine where
  originX := spec.extent.minx
  pixelWidth := spec.extent.width / Float.ofNat spec.width
  rowRotation := 0.0
  originY := spec.extent.maxy
  columnRotation := 0.0
  pixelHeight := (spec.extent.miny - spec.extent.maxy) / Float.ofNat spec.height

def HasPixels (spec : SyntheticRaster) : Prop :=
  0 < spec.width ∧ 0 < spec.height ∧ spec.affine.isDegenerate = false

variable {spec : SyntheticRaster}

theorem transform_of_no_pixels (h : spec.width = 0 ∨ spec.height = 0) :
    spec.transform = .error .noPixels :=
  if_pos h

theorem transform_of_degenerate (hwidth : 0 < spec.width) (hheight : 0 < spec.height)
    (h : spec.affine.isDegenerate = true) :
    spec.transform =
      .error (.degeneratePixel spec.affine.pixelWidth spec.affine.pixelHeight) := by
  have hpixels : ¬ (spec.width = 0 ∨ spec.height = 0) := by omega
  have hrotated : ¬ spec.affine.isRotated = true := by
    rw [GeoTransform.isRotated_eq_false rfl rfl]
    exact Bool.false_ne_true
  unfold transform GeoTransform.northUp
  rw [if_neg hpixels]
  exact (dif_neg hrotated).trans (dif_pos h)

theorem HasPixels.exists_transform (h : spec.HasPixels) :
    ∃ transform, spec.transform = .ok transform := by
  obtain ⟨hwidth, hheight, hsized⟩ := h
  have hpixels : ¬ (spec.width = 0 ∨ spec.height = 0) := by omega
  have hrotated : ¬ spec.affine.isRotated = true := by
    rw [GeoTransform.isRotated_eq_false rfl rfl]
    exact Bool.false_ne_true
  have hdegenerate : ¬ spec.affine.isDegenerate = true := by
    rw [hsized]
    exact Bool.false_ne_true
  unfold transform GeoTransform.northUp
  rw [if_neg hpixels]
  exact ⟨_, (dif_neg hrotated).trans (dif_neg hdegenerate)⟩

end SyntheticRaster

namespace GeoTiff

/-- What is wrong with a description, where the first of several reasons counts. -/
inductive Refuses (spec : SyntheticRaster) : RasterFault → Prop where
  | noPixels : spec.width = 0 ∨ spec.height = 0 → Refuses spec .noPixels
  | degenerate : 0 < spec.width → 0 < spec.height → spec.affine.isDegenerate = true →
      Refuses spec (.degeneratePixel spec.affine.pixelWidth spec.affine.pixelHeight)
  | tooWide : spec.HasPixels → maxDimension < spec.width → Refuses spec (.tooWide spec.width)
  | tooHigh : spec.HasPixels → spec.width ≤ maxDimension → maxDimension < spec.height →
      Refuses spec (.tooHigh spec.height)

section

variable {spec : SyntheticRaster} {transform : GeoTransform} {fault : RasterFault}

theorem check_of_transform (h : spec.transform = .ok transform) :
    check spec =
      if spec.width > maxDimension then .error (.tooWide spec.width)
      else if spec.height > maxDimension then .error (.tooHigh spec.height)
      else .ok transform := by
  unfold check
  rw [h]
  rfl

theorem check_of_transform_error (h : spec.transform = .error fault) :
    check spec = .error fault := by
  unfold check
  rw [h]
  rfl

theorem Refuses.check_eq (h : Refuses spec fault) : check spec = .error fault := by
  cases h with
  | noPixels hnone => exact check_of_transform_error (SyntheticRaster.transform_of_no_pixels hnone)
  | degenerate hwidth hheight hsize =>
      exact check_of_transform_error
        (SyntheticRaster.transform_of_degenerate hwidth hheight hsize)
  | tooWide hpixels hwide =>
      rcases hpixels.exists_transform with ⟨transform, htransform⟩
      rw [check_of_transform htransform, if_pos hwide]
  | tooHigh hpixels hnarrow hhigh =>
      rcases hpixels.exists_transform with ⟨transform, htransform⟩
      rw [check_of_transform htransform, if_neg (Nat.not_lt.mpr hnarrow), if_pos hhigh]

theorem exists_refuses_or_check (spec : SyntheticRaster) :
    (∃ fault, Refuses spec fault) ∨ ∃ transform, check spec = .ok transform := by
  by_cases hnone : spec.width = 0 ∨ spec.height = 0
  · exact Or.inl ⟨_, .noPixels hnone⟩
  · have hwidth : 0 < spec.width := by omega
    have hheight : 0 < spec.height := by omega
    cases hsize : spec.affine.isDegenerate with
    | true => exact Or.inl ⟨_, .degenerate hwidth hheight hsize⟩
    | false =>
        have hpixels : spec.HasPixels := ⟨hwidth, hheight, hsize⟩
        rcases Nat.lt_or_ge maxDimension spec.width with hwide | hnarrow
        · exact Or.inl ⟨_, .tooWide hpixels hwide⟩
        · rcases Nat.lt_or_ge maxDimension spec.height with hhigh | hlow
          · exact Or.inl ⟨_, .tooHigh hpixels hnarrow hhigh⟩
          · rcases hpixels.exists_transform with ⟨transform, htransform⟩
            refine Or.inr ⟨transform, ?_⟩
            rw [check_of_transform htransform, if_neg (Nat.not_lt.mpr hnarrow),
              if_neg (Nat.not_lt.mpr hlow)]

theorem check_eq_error_iff : check spec = .error fault ↔ Refuses spec fault := by
  constructor
  · intro h
    rcases exists_refuses_or_check spec with ⟨found, hfound⟩ | ⟨transform, hpassed⟩
    · rw [hfound.check_eq] at h
      cases h
      exact hfound
    · rw [hpassed] at h
      cases h
  · exact Refuses.check_eq

theorem encode_of_check_error [TiffCodec] (h : check spec = .error fault) :
    encode spec = .error (.invalidRaster fault) := by
  unfold encode
  rw [h]
  rfl

end

end GeoTiff

namespace SyntheticRaster

section

variable [TiffCodec] {spec : SyntheticRaster} {fault : RasterFault} {path : String} {w : World}

theorem run_write_of_no_place {kind : IoKind} (h : w.tree.filePlace w.cwd path = .error kind) :
    Effect.run (spec.write path) w = (.error (Fault.ofIo kind), w) := by
  have hnone := FileTree.writeContent_of_no_place h (.bytes ByteArray.empty)
  unfold write
  rw [Effect.run_bind_of_error (Effect.run_writeBytes_of_error hnone)]

theorem run_write_of_encode_error {t : FileTree} {reason : Fault}
    (hmade : w.tree.writeContent w.cwd path (.bytes ByteArray.empty) = .ok t)
    (hencode : GeoTiff.encode spec = .error reason) :
    Effect.run (spec.write path) w = (.error reason, { w with tree := t }) := by
  unfold write
  rw [Effect.run_bind_of_ok (Effect.run_writeBytes_of_ok hmade), Effect.run_bind,
    Effect.run_ofExcept, hencode]

/-- What a description that is refused leaves behind: nothing where no file can be made, and an
empty file everywhere else, also where a file had been. All other entries stay. So the tree is as it
was only if no file could be made or an empty one was there already. -/
theorem write_refused_empties_file (h : GeoTiff.check spec = .error fault) (w : World)
    (path : String) :
    GeoTiff.Refuses spec fault ∧ GeoTiff.encode spec = .error (.invalidRaster fault) ∧
      ((∃ kind, w.tree.filePlace w.cwd path = .error kind ∧
          Effect.run (spec.write path) w = (.error (Fault.ofIo kind), w)) ∨
        ∃ loc executable tree, w.tree.filePlace w.cwd path = .ok (loc, executable) ∧
          Effect.run (spec.write path) w =
            (.error (.invalidRaster fault), { w with tree := tree }) ∧
          tree.readContent w.cwd path = .ok (.bytes ByteArray.empty) ∧
          tree.entry? loc = some (.file (.bytes ByteArray.empty) executable) ∧
          (∀ other, other ≠ loc → tree.entry? other = w.tree.entry? other) ∧
          ((∀ other, tree.entry? other = w.tree.entry? other) ↔
            w.tree.entry? loc = some (.file (.bytes ByteArray.empty) executable))) := by
  have hencode := GeoTiff.encode_of_check_error h
  refine ⟨GeoTiff.check_eq_error_iff.mp h, hencode, ?_⟩
  cases hplace : w.tree.filePlace w.cwd path with
  | error kind => exact Or.inl ⟨kind, rfl, run_write_of_no_place hplace⟩
  | ok place =>
      rcases place with ⟨loc, executable⟩
      have hmade := FileTree.writeContent_of_filePlace hplace (.bytes ByteArray.empty)
      have hentry : FileTree.entry? (w.tree.insert loc (.file (.bytes ByteArray.empty) executable))
          loc = some (.file (.bytes ByteArray.empty) executable) := by
        rcases FileTree.exists_of_filePlace hplace with ⟨dir, name, rfl, _, hdir, hfree, _⟩
        exact w.tree.entry?_insert_self (w.tree.fits_file hdir hfree)
      refine Or.inr ⟨loc, executable, _, rfl, run_write_of_encode_error hmade hencode,
        FileTree.readContent_of_writeContent hmade, hentry, ?_, ?_⟩
      · intro other hother
        exact w.tree.entry?_insert_of_ne _ hother
      · constructor
        · intro hkept
          rw [← hkept loc]
          exact hentry
        · intro hsame other
          by_cases hother : other = loc
          · rw [hother, hentry, hsame]
          · exact w.tree.entry?_insert_of_ne _ hother

end

theorem write_refused_empties_file_mine :
    ∃ w : World, w.tree.readContent w.cwd "/a.tif" = .ok (.bytes "mine".toUTF8) ∧
      ∃ tree, Effect.run (write { width := 0, height := 2 } "/a.tif") w =
          (.error (.invalidRaster .noPixels), { w with tree := tree }) ∧
        tree.readContent w.cwd "/a.tif" = .ok (.bytes ByteArray.empty) := by
  refine ⟨⟨FileTree.empty.insert ["a.tif"] (.file (.bytes "mine".toUTF8) false), [], []⟩, rfl, ?_⟩
  have hcheck : GeoTiff.check { width := 0, height := 2 } = .error .noPixels := rfl
  obtain ⟨_, _, ⟨kind, hnone, _⟩ | ⟨_, _, tree, _, hrun, hread, _⟩⟩ :=
    write_refused_empties_file hcheck
      ⟨FileTree.empty.insert ["a.tif"] (.file (.bytes "mine".toUTF8) false), [], []⟩ "/a.tif"
  · cases hnone
  · exact ⟨tree, hrun, hread⟩

end SyntheticRaster
end TileAudit
