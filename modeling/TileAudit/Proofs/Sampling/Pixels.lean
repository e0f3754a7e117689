import TileAudit.Sampling
import TileAudit.Synthetic

/-!
# Samples by index

Samples that are given by a function are that function within their shape. So a tile made
of pixels holds these pixels, and a self-describing raster tells every place in it.
-/

namespace TileAudit

namespace Samples

theorem mul_add_div_of_lt {n d rest : Nat} (h : rest < d) : (n * d + rest) / d = n := by
  rw [Nat.mul_comm, Nat.mul_add_div (Nat.zero_lt_of_lt h), Nat.div_eq_of_lt h, Nat.add_zero]

theorem offset_div_bands (width row col : Nat) {bands band : Nat} (hband : band < bands) :
    offset width bands row col band / bands = row * width + col :=
  mul_add_div_of_lt hband

theorem offset_mod_bands (width row col : Nat) {bands band : Nat} (hband : band < bands) :
    offset width bands row col band % bands = band :=
  Nat.mul_add_mod_of_lt hband

theorem get?_ofFn {height width bands : Nat} (f : Nat → Nat → Nat → UInt8) {row col band : Nat}
    (hrow : row < height) (hcol : col < width) (hband : band < bands) :
    (ofFn height width bands f).get? row col band = some (f row col band) := by
  have hindex : row < (ofFn height width bands f).height ∧
      col < (ofFn height width bands f).width ∧ band < (ofFn height width bands f).bands :=
    ⟨hrow, hcol, hband⟩
  have hlt := offset_lt hrow hcol hband
  unfold get?
  rw [dif_pos hindex]
  show some (getElem (Array.ofFn fun i : Fin (height * width * bands) =>
    f (i.val / bands / width) (i.val / bands % width) (i.val % bands))
      (offset width bands row col band) (by rw [Array.size_ofFn]; exact hlt)) = _
  rw [Array.getElem_ofFn, offset_div_bands width row col hband,
    offset_mod_bands width row col hband, Nat.mul_add_mod_of_lt hcol, mul_add_div_of_lt hcol]

theorem addressable_of_pos {height width bands : Nat} (hheight : 0 < height) (hwidth : 0 < width)
    (hbands : 0 < bands) : addressable height width bands = height * width * bands := by
  have hnonzero : [height, width, bands].filter (· ≠ 0) = [height, width, bands] := by
    apply List.filter_eq_self.mpr
    intro n hn
    simp only [List.mem_cons, List.not_mem_nil, or_false] at hn
    apply decide_eq_true
    rcases hn with rfl | rfl | rfl
    · exact Nat.ne_of_gt hheight
    · exact Nat.ne_of_gt hwidth
    · exact Nat.ne_of_gt hbands
  unfold addressable
  rw [hnonzero]
  show 1 * height * width * bands = _
  rw [Nat.one_mul]

theorem isAddressable_iff_of_pos {height width bands : Nat} (hheight : 0 < height)
    (hwidth : 0 < width) (hbands : 0 < bands) :
    isAddressable height width bands = true ↔
      height * width * bands ≤ Numeral.limitSigned64 := by
  unfold isAddressable
  rw [addressable_of_pos hheight hwidth hbands, decide_eq_true_iff]

theorem ofBytes_bytes (s : Samples) (h : isAddressable s.height s.width s.bands = true) :
    ofBytes s.height s.width s.bands s.bytes = .ok s := by
  have hroom : ¬ (!isAddressable s.height s.width s.bands) = true := by
    rw [h]
    exact Bool.false_ne_true
  have hfills : ¬ s.bytes.size < s.height * s.width * s.bands := by
    rw [s.size_eq]
    exact Nat.lt_irrefl _
  unfold ofBytes
  rw [if_neg hroom, if_neg hfills, dif_pos s.size_eq]

end Samples

theorem Raster.ofSamples_of_filled {samples : Samples}
    (h : 0 < samples.height ∧ 0 < samples.width ∧ 0 < samples.bands) (transform : GeoTransform)
    (epsg : UInt16) :
    Raster.ofSamples samples transform epsg = .ok ⟨samples, transform, epsg, h⟩ :=
  dif_pos h

theorem Raster.parts_of_ofSamples {samples : Samples} {transform : GeoTransform} {epsg : UInt16}
    {raster : Raster} (h : Raster.ofSamples samples transform epsg = .ok raster) :
    raster.samples = samples ∧ raster.transform = transform ∧ raster.epsg = epsg := by
  unfold Raster.ofSamples at h
  split at h
  · cases h
    exact ⟨rfl, rfl, rfl⟩
  · cases h

theorem Tile.get?_ofFn {height width : Nat} (f : Nat → Nat → Colour) {row col band : Nat}
    (hrow : row < height) (hcol : col < width) (hband : band < tileBands) :
    (Tile.ofFn height width f).get? col row band = some ((f row col).band band) :=
  Samples.get?_ofFn (fun row col band => (f row col).band band) hrow hcol hband

def Raster.colourAtCentre (raster : Raster) (g : SampleGrid) (px py : Nat) : Colour :=
  match raster.columnAt? (g.x px), raster.rowAt? (g.y py) with
  | some col, some row => raster.colourAt col row
  | _, _ => Colour.black

theorem Raster.get?_sample (raster : Raster) (g : SampleGrid) {px py band : Nat}
    (hpx : px < g.size) (hpy : py < g.size) (hband : band < tileBands) :
    (raster.sample g).get? px py band = some ((raster.colourAtCentre g px py).band band) := by
  have hcolumn : (raster.sourceColumns g)[px]? = some (raster.columnAt? (g.x px)) := by
    unfold sourceColumns
    rw [Array.getElem?_eq_getElem (by rw [Array.size_ofFn]; exact hpx), Array.getElem_ofFn]
  have hrow : (raster.sourceRows g)[py]? = some (raster.rowAt? (g.y py)) := by
    unfold sourceRows
    rw [Array.getElem?_eq_getElem (by rw [Array.size_ofFn]; exact hpy), Array.getElem_ofFn]
  unfold sample
  rw [Tile.get?_ofFn _ hpy hpx hband]
  simp only [hcolumn, hrow]
  unfold colourAtCentre
  cases raster.columnAt? (g.x px) with
  | none => rfl
  | some col =>
      cases raster.rowAt? (g.y py) with
      | none => rfl
      | some row => rfl

namespace SyntheticRaster

variable {spec : SyntheticRaster} {transform : GeoTransform} {raster : Raster}

theorem filled_of_transform (h : spec.transform = .ok transform) :
    0 < spec.samples.height ∧ 0 < spec.samples.width ∧ 0 < spec.samples.bands := by
  have hpixels : ¬ (spec.width = 0 ∨ spec.height = 0) := by
    intro hnone
    unfold SyntheticRaster.transform GeoTransform.northUp at h
    rw [if_pos hnone] at h
    cases h
  rw [not_or] at hpixels
  exact ⟨Nat.pos_of_ne_zero hpixels.2, Nat.pos_of_ne_zero hpixels.1, (by decide : 0 < 3)⟩

def IsAddressable (spec : SyntheticRaster) : Prop :=
  Samples.isAddressable spec.height spec.width tileBands = true

theorem pixels?_of_addressable (h : spec.IsAddressable) : spec.pixels? = some spec.samples.bytes :=
  if_pos h

theorem pixels?_of_not_addressable (h : ¬ spec.IsAddressable) : spec.pixels? = none :=
  if_neg h

theorem rasterOf_bytes (h : spec.transform = .ok transform) (haddressable : spec.IsAddressable) :
    spec.rasterOf transform spec.samples.bytes =
      .ok ⟨spec.samples, transform, spec.epsg, filled_of_transform h⟩ := by
  have hsamples : Samples.ofBytes spec.height spec.width tileBands spec.samples.bytes =
      .ok spec.samples := spec.samples.ofBytes_bytes haddressable
  unfold rasterOf
  rw [hsamples]
  exact Raster.ofSamples_of_filled (filled_of_transform h) transform spec.epsg

theorem toRaster_of_transform (h : spec.transform = .ok transform)
    (haddressable : spec.IsAddressable) :
    spec.toRaster = .ok ⟨spec.samples, transform, spec.epsg, filled_of_transform h⟩ := by
  unfold toRaster
  rw [h, pixels?_of_addressable haddressable]
  show Except.mapError Fault.invalidRaster (spec.rasterOf transform spec.samples.bytes) = _
  rw [rasterOf_bytes h haddressable]
  rfl

theorem toRaster_of_transform_error {fault : RasterFault} (h : spec.transform = .error fault) :
    spec.toRaster = .error (.invalidRaster fault) := by
  unfold toRaster
  rw [h]
  rfl

theorem toRaster_of_not_addressable (h : spec.transform = .ok transform)
    (haddressable : ¬ spec.IsAddressable) : spec.toRaster = .error .brokenOff := by
  unfold toRaster
  rw [h, pixels?_of_not_addressable haddressable]
  rfl

theorem addressable_of_toRaster (h : spec.toRaster = .ok raster) : spec.IsAddressable := by
  by_cases haddressable : spec.IsAddressable
  · exact haddressable
  · cases htransform : spec.transform with
    | error fault =>
        rw [toRaster_of_transform_error htransform] at h
        cases h
    | ok transform =>
        rw [toRaster_of_not_addressable htransform haddressable] at h
        cases h

theorem parts_of_toRaster (h : spec.toRaster = .ok raster) :
    spec.transform = .ok raster.transform ∧ raster.samples = spec.samples ∧
      raster.epsg = spec.epsg := by
  have haddressable := addressable_of_toRaster h
  cases htransform : spec.transform with
  | error fault =>
      rw [toRaster_of_transform_error htransform] at h
      cases h
  | ok transform =>
      rw [toRaster_of_transform htransform haddressable] at h
      cases h
      exact ⟨rfl, rfl, rfl⟩

theorem size_of_toRaster (h : spec.toRaster = .ok raster) :
    raster.width = spec.width ∧ raster.height = spec.height := by
  have hsamples := (parts_of_toRaster h).2.1
  constructor
  · show raster.samples.width = _
    rw [hsamples]
    rfl
  · show raster.samples.height = _
    rw [hsamples]
    rfl

theorem colourAt_of_toRaster (h : spec.toRaster = .ok raster) {row col : Nat}
    (hrow : row < spec.height) (hcol : col < spec.width) :
    raster.colourAt col row = encodePixel row col := by
  have hsample : ∀ band, band < tileBands →
      raster.sample? band col row = some ((encodePixel row col).band band) := by
    intro band hband
    unfold Raster.sample?
    rw [(parts_of_toRaster h).2.1]
    exact Samples.get?_ofFn _ hrow hcol hband
  show Colour.mk ((raster.sample? 0 col row).getD 0) ((raster.sample? 1 col row).getD 0)
    ((raster.sample? 2 col row).getD 0) = _
  rw [hsample 0 (by decide), hsample 1 (by decide), hsample 2 (by decide)]
  rfl

end SyntheticRaster

end TileAudit
