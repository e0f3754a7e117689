import TileAudit.Proofs.Binary64.Progressions
import TileAudit.Proofs.Sampling.DefaultGrid

/-!
# Pixels of a raster

The pixel that a place lies in is a pixel of the raster, whatever the georeference is and however
many pixels there are: no sample of it is missing. A place that is not finite lies in no pixel.
-/

namespace TileAudit

open Binary64

def Colour.ofValues (values : List UInt8) : Colour :=
  ⟨values[0]?.getD 0, values[1]?.getD 0, values[2]?.getD 0⟩

namespace Raster

def sourceAt? (raster : Raster) (g : SampleGrid) (px py : Nat) : Option (Nat × Nat) :=
  raster.pixelAt? (g.x px) (g.y py)

section

variable {raster : Raster} {x y : Float} {band col row : Nat}

theorem sample?_eq_none_of_bands (h : raster.bands ≤ band) (col row : Nat) :
    raster.sample? band col row = none :=
  dif_neg fun hin => absurd hin.2.2 (not_lt.mpr h)

theorem exists_sample? (hband : band < raster.bands) (hcol : col < raster.width)
    (hrow : row < raster.height) : ∃ value, raster.sample? band col row = some value :=
  ⟨_, dif_pos ⟨hrow, hcol, hband⟩⟩

theorem exists_pixel? (hcol : col < raster.width) (hrow : row < raster.height) :
    ∃ values, raster.pixel? col row = some values ∧ values.length = raster.bands ∧
      ∀ band, values[band]? = raster.sample? band col row := by
  have hall : ∀ band ∈ List.range raster.bands,
      raster.sample? band col row = some ((raster.sample? band col row).getD 0) := by
    intro band hband
    rcases exists_sample? (List.mem_range.mp hband) hcol hrow with ⟨value, hvalue⟩
    rw [hvalue]
    rfl
  have hpixel : raster.pixel? col row =
      some ((List.range raster.bands).map fun band => (raster.sample? band col row).getD 0) := by
    unfold pixel?
    rw [if_pos ⟨hcol, hrow⟩, List.filterMap_eq_map_iff_forall_eq_some.mpr hall]
  refine ⟨_, hpixel, ?_, ?_⟩
  · rw [List.length_map, List.length_range]
  · intro band
    rw [List.getElem?_map]
    rcases lt_or_ge band raster.bands with hband | hband
    · rw [List.getElem?_range hband, hall band (List.mem_range.mpr hband)]
      rfl
    · rw [List.getElem?_eq_none (by rw [List.length_range]; exact hband),
        sample?_eq_none_of_bands hband]
      rfl

theorem getElem?_pixel? {values : List UInt8} (h : raster.pixel? col row = some values)
    (band : Nat) : values[band]? = raster.sample? band col row := by
  have hin : col < raster.width ∧ row < raster.height := by
    by_contra hout
    unfold pixel? at h
    rw [if_neg hout] at h
    cases h
  rcases exists_pixel? hin.1 hin.2 with ⟨values', hvalues, _, hbands⟩
  rw [h] at hvalues
  cases hvalues
  exact hbands band

theorem colourAt_eq_ofValues {values : List UInt8}
    (h : ∀ band, values[band]? = raster.sample? band col row) :
    raster.colourAt col row = Colour.ofValues values := by
  unfold colourAt Colour.ofValues
  rw [h 0, h 1, h 2]

theorem pixelAt?_eq_some_iff : raster.pixelAt? x y = some (col, row) ↔
    raster.columnAt? x = some col ∧ raster.rowAt? y = some row := by
  unfold pixelAt?
  cases raster.columnAt? x with
  | none => simp
  | some col' =>
      cases raster.rowAt? y with
      | none => simp
      | some row' => simp

theorem isSome_pixelAt?_iff :
    (raster.pixelAt? x y).isSome ↔ (raster.columnAt? x).isSome ∧ (raster.rowAt? y).isSome := by
  unfold pixelAt?
  cases raster.columnAt? x with
  | none => simp
  | some col' =>
      cases raster.rowAt? y with
      | none => simp
      | some row' => simp

theorem isFinite_of_columnAt? (h : raster.columnAt? x = some col) : x.isFinite = true :=
  (isFinite_of_sub (isFinite_of_div (isFinite_of_cell? h))).1

theorem isFinite_of_rowAt? (h : raster.rowAt? y = some row) : y.isFinite = true :=
  (isFinite_of_sub (isFinite_of_div (isFinite_of_cell? h))).1

theorem lt_of_pixelAt? (h : raster.pixelAt? x y = some (col, row)) :
    col < raster.width ∧ row < raster.height := by
  rcases pixelAt?_eq_some_iff.mp h with ⟨hcol, hrow⟩
  exact ⟨cell?_lt hcol, cell?_lt hrow⟩

theorem isFinite_of_pixelAt? (h : raster.pixelAt? x y = some (col, row)) :
    x.isFinite = true ∧ y.isFinite = true := by
  rcases pixelAt?_eq_some_iff.mp h with ⟨hcol, hrow⟩
  exact ⟨isFinite_of_columnAt? hcol, isFinite_of_rowAt? hrow⟩

end

/-- The pixel a place lies in is a pixel of the raster, with a value in every band, and the sampler
takes its colour. A place that is not finite lies in no pixel. -/
theorem located_inside (raster : Raster) (x y : Float) :
    (∀ col row, raster.pixelAt? x y = some (col, row) →
      col < raster.width ∧ row < raster.height ∧
        ∃ values, raster.pixel? col row = some values ∧ values.length = raster.bands ∧
          (∀ band, values[band]? = raster.sample? band col row) ∧
          raster.colourAt col row = Colour.ofValues values) ∧
      (x.isFinite = false ∨ y.isFinite = false → raster.pixelAt? x y = none) := by
  constructor
  · intro col row h
    rcases lt_of_pixelAt? h with ⟨hcol, hrow⟩
    rcases exists_pixel? hcol hrow with ⟨values, hpixel, hlength, hvalues⟩
    exact ⟨hcol, hrow, values, hpixel, hlength, hvalues, colourAt_eq_ofValues hvalues⟩
  · intro hinfinite
    cases h : raster.pixelAt? x y with
    | none => rfl
    | some place =>
        rcases isFinite_of_pixelAt? h with ⟨hx, hy⟩
        rw [hx, hy] at hinfinite
        rcases hinfinite with hfalse | hfalse
        · cases hfalse
        · cases hfalse

theorem exists_sourceAt?_default :
    ∃ raster, SyntheticRaster.toRaster { width := 512, height := 512 } = .ok raster ∧
      ∃ col row,
        raster.sourceAt? (Config.defaultGrid.sampleGrid ⟨0, 0, 0⟩) 0 0 = some (col, row) := by
  rcases toRaster_default with ⟨raster, hraster, htransform⟩
  rcases SyntheticRaster.size_of_toRaster hraster with ⟨hwidth, hheight⟩
  have hcolumn := @columnAt?_default raster ⟨0, 0, 0⟩ htransform hwidth (by decide) 0 (by decide)
  have hrow := @rowAt?_default raster ⟨0, 0, 0⟩ htransform hheight (by decide) 0 (by decide)
  rw [if_pos (by decide)] at hcolumn hrow
  exact ⟨raster, hraster, _, _, pixelAt?_eq_some_iff.mpr ⟨hcolumn, hrow⟩⟩

theorem located_inside_default :
    ∃ raster, SyntheticRaster.toRaster { width := 512, height := 512 } = .ok raster ∧
      ∃ x y col row, raster.pixelAt? x y = some (col, row) ∧
        col < raster.width ∧ row < raster.height ∧ (∃ values, raster.pixel? col row = some values) ∧
        Binary64.infinity.isFinite = false ∧ raster.pixelAt? Binary64.infinity y = none := by
  rcases exists_sourceAt?_default with ⟨raster, hraster, col, row, hsource⟩
  rcases (located_inside raster _ _).1 col row hsource with ⟨hcol, hrow, values, hvalues, _⟩
  have hinfinite : Binary64.infinity.isFinite = false := rfl
  exact ⟨raster, hraster, _, _, col, row, hsource, hcol, hrow, ⟨values, hvalues⟩, hinfinite,
    (located_inside raster _ _).2 (Or.inl hinfinite)⟩

end Raster
end TileAudit
