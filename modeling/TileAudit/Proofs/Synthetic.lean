import TileAudit.Proofs.Sampling.Inside
import TileAudit.Proofs.Tile.Images

/-!
# Self-describing rasters end to end

The samples of a synthetic raster are appended pixel by pixel, row after row, and read back at a
computed place. The two agree because the length of the buffer tells which pixel comes next.
-/

namespace TileAudit

theorem encodePixel_toNat (row col : UInt64) :
    encodePixel row.toNat col.toNat =
      ⟨(row % 256).toUInt8, (col % 256).toUInt8, ((row + col) % 256).toUInt8⟩ := by
  have hword : ∀ n : UInt64, UInt8.ofNat n.toNat = (n % 256).toUInt8 := by
    intro n
    apply UInt8.toNat_inj.mp
    simp
  -- A sum that wraps loses a multiple of 256.
  have hsum : UInt8.ofNat (row.toNat + col.toNat) = UInt8.ofNat (row + col).toNat := by
    apply UInt8.toNat_inj.mp
    rw [UInt8.toNat_ofNat', UInt8.toNat_ofNat', UInt64.toNat_add]
    omega
  rw [encodePixel, hsum, hword, hword, hword]

theorem toNat_blue_encodePixel (row col : Nat) :
    (encodePixel row col).blue.toNat = (row % 256 + col % 256) % 256 := by
  change (UInt8.ofNat (row + col)).toNat = _
  rw [UInt8.toNat_ofNat']
  exact Nat.add_mod row col 256

namespace SyntheticRaster

variable {spec : SyntheticRaster} {transform : GeoTransform} {raster : Raster}
  {width count row col band n : Nat} {buffer : Array UInt8}

/-!
## The buffer

The length of the buffer tells which pixel comes next. This is the invariant of both loops.
-/

def pixelBytes (row col : Nat) : Array UInt8 :=
  #[(encodePixel row col).red, (encodePixel row col).green, (encodePixel row col).blue]

def appendRow (row count : Nat) (buffer : Array UInt8) : Array UInt8 :=
  (List.range count).foldl (fun buffer col => buffer ++ pixelBytes row col) buffer

def appendRows (width count : Nat) : Array UInt8 :=
  (List.range count).foldl (fun buffer row => appendRow row width buffer) #[]

def pixels (spec : SyntheticRaster) : ByteArray :=
  ⟨appendRows spec.width spec.height⟩

/-- A buffer that holds the first pixels of a raster of a width. -/
structure IsFilled (width count : Nat) (buffer : Array UInt8) : Prop where
  size_eq : buffer.size = 3 * count
  sample : ∀ pixel < count, ∀ band < 3,
    buffer[3 * pixel + band]? = some ((encodePixel (pixel / width) (pixel % width)).band band)

theorem getElem?_pixelBytes (row col : Nat) (hband : band < 3) :
    (pixelBytes row col)[band]? = some ((encodePixel row col).band band) := by
  match band, hband with
  | 0, _ | 1, _ | 2, _ => rfl

theorem IsFilled.step (h : IsFilled width count buffer) :
    IsFilled width (count + 1) (buffer ++ pixelBytes (count / width) (count % width)) where
  size_eq := by
    rw [Array.size_append, h.size_eq]
    rfl
  sample := by
    intro pixel hpixel band hband
    have hsize := h.size_eq
    rcases Nat.lt_succ_iff_lt_or_eq.mp hpixel with hbefore | rfl
    · rw [Array.getElem?_append_left (by omega)]
      exact h.sample pixel hbefore band hband
    · have hplace : 3 * pixel + band - buffer.size = band := by omega
      rw [Array.getElem?_append_right (by omega), hplace]
      exact getElem?_pixelBytes _ _ hband

theorem IsFilled.appendRow (h : IsFilled width (row * width) buffer) (hn : n ≤ width) :
    IsFilled width (row * width + n) (appendRow row n buffer) := by
  induction n with
  | zero => exact h
  | succ n ih =>
      have hrow : (row * width + n) / width = row := Samples.mul_add_div_of_lt hn
      have hcol : (row * width + n) % width = n := Nat.mul_add_mod_of_lt hn
      have hstep := (ih (Nat.le_of_succ_le hn)).step
      rw [hrow, hcol] at hstep
      unfold SyntheticRaster.appendRow at hstep ⊢
      rw [List.range_succ, List.foldl_append]
      exact hstep

theorem isFilled_appendRows (width count : Nat) :
    IsFilled width (count * width) (appendRows width count) := by
  induction count with
  | zero =>
      rw [Nat.zero_mul]
      exact ⟨rfl, fun _ hpixel => absurd hpixel (Nat.not_lt_zero _)⟩
  | succ count ih =>
      have hrow := ih.appendRow (Nat.le_refl width)
      rw [Nat.succ_mul]
      unfold appendRows at hrow ⊢
      rw [List.range_succ, List.foldl_append]
      exact hrow

theorem size_pixels (spec : SyntheticRaster) :
    spec.pixels.size = 3 * spec.width * spec.height := by
  have hsize := (isFilled_appendRows spec.width spec.height).size_eq
  rw [Nat.mul_assoc, Nat.mul_comm spec.width]
  exact hsize

theorem at?_pixels (hrow : row < spec.height) (hcol : col < spec.width) (hband : band < 3) :
    Bytes.at? spec.pixels (3 * (row * spec.width + col) + band) =
      some ((encodePixel row col).band band) := by
  have hpixel : row * spec.width + col < spec.height * spec.width := by
    have hplace := Samples.offset_lt hrow hcol (Nat.one_pos)
    simpa [Samples.offset] using hplace
  have hsample := (isFilled_appendRows spec.width spec.height).sample _ hpixel band hband
  rw [Nat.mul_add_mod_of_lt hcol, Samples.mul_add_div_of_lt hcol] at hsample
  rw [Bytes.at?_eq_getElem?]
  exact hsample

def pixelBlock (spec : SyntheticRaster) : Samples where
  height := spec.height
  width := spec.width
  bands := tileBands
  bytes := spec.pixels
  size_eq := by
    rw [size_pixels]
    change 3 * spec.width * spec.height = spec.height * spec.width * 3
    rw [Nat.mul_comm spec.height, Nat.mul_comm 3, Nat.mul_right_comm]

theorem pixelBlock_eq (spec : SyntheticRaster) : spec.pixelBlock = spec.samples := by
  have hbytes : spec.pixelBlock.bytes = spec.samples.bytes := by
    apply @Samples.bytes_eq_of_get? spec.pixelBlock spec.samples rfl rfl rfl
    intro row col band hrow hcol hband
    have hplace := at?_pixels hrow hcol hband
    rw [Nat.mul_comm 3] at hplace
    rw [spec.pixelBlock.get?_eq_at? hrow hcol hband]
    exact hplace.trans
      (Samples.get?_ofFn (fun row col => (encodePixel row col).band) hrow hcol hband).symm
  unfold pixelBlock at hbytes ⊢
  congr

/-!
## The raster

A description with pixels can be addressed as long as three bytes a pixel can. Its raster is made of
the buffer.
-/

theorem bands_of_toRaster (h : spec.toRaster = .ok raster) : raster.bands = 3 := by
  unfold Raster.bands
  rw [(parts_of_toRaster h).2.1]
  rfl

theorem sample?_of_toRaster (h : spec.toRaster = .ok raster) (band col row : Nat) :
    raster.sample? band col row =
      if col < spec.width ∧ row < spec.height ∧ band < 3 then
        some ((encodePixel row col).band band)
      else
        none := by
  unfold Raster.sample?
  rw [(parts_of_toRaster h).2.1]
  by_cases hin : col < spec.width ∧ row < spec.height ∧ band < 3
  · rw [if_pos hin]
    exact Samples.get?_ofFn _ hin.2.1 hin.1 hin.2.2
  · rw [if_neg hin]
    exact dif_neg fun hplace => hin ⟨hplace.2.1, hplace.1, hplace.2.2⟩

theorem pixel?_of_toRaster (h : spec.toRaster = .ok raster) (col row : Nat) :
    raster.pixel? col row =
      if col < spec.width ∧ row < spec.height then
        some [(encodePixel row col).red, (encodePixel row col).green, (encodePixel row col).blue]
      else
        none := by
  rcases size_of_toRaster h with ⟨hwidth, hheight⟩
  unfold Raster.pixel?
  rw [hwidth, hheight, bands_of_toRaster h]
  by_cases hin : col < spec.width ∧ row < spec.height
  · have hsample : ∀ band ∈ List.range 3,
        raster.sample? band col row = some ((encodePixel row col).band band) := by
      intro band hband
      rw [sample?_of_toRaster h, if_pos ⟨hin.1, hin.2, List.mem_range.mp hband⟩]
    rw [if_pos hin, if_pos hin, List.filterMap_eq_map_iff_forall_eq_some.mpr hsample]
    rfl
  · rw [if_neg hin, if_neg hin]

theorem bytes_samples (spec : SyntheticRaster) : spec.samples.bytes = spec.pixels :=
  congrArg Samples.bytes (pixelBlock_eq spec).symm

theorem addressable_iff (h : spec.transform = .ok transform) :
    spec.IsAddressable ↔ 3 * spec.width * spec.height ≤ Numeral.limitSigned64 := by
  rcases filled_of_transform h with ⟨hheight, hwidth, hbands⟩
  have hsize : spec.height * spec.width * tileBands = 3 * spec.width * spec.height := by
    rw [← size_pixels, ← bytes_samples]
    exact spec.samples.size_eq.symm
  rw [← hsize]
  exact Samples.isAddressable_iff_of_pos hheight hwidth hbands

/-- The raster in memory of a description: it has the shape and the samples of the description, and
tells the place of every pixel inside and nothing outside, sample by sample and pixel by pixel. -/
structure TellsPlaces (spec : SyntheticRaster) (raster : Raster) : Prop where
  width : raster.width = spec.width
  height : raster.height = spec.height
  bands : raster.bands = 3
  bytes : spec.pixels? = some raster.samples.bytes
  sample? : ∀ band col row, raster.sample? band col row =
    if col < spec.width ∧ row < spec.height ∧ band < 3 then
      some ((encodePixel row col).band band)
    else
      none
  pixel? : ∀ col row, raster.pixel? col row =
    if col < spec.width ∧ row < spec.height then
      some [(encodePixel row col).red, (encodePixel row col).green, (encodePixel row col).blue]
    else
      none
  getElem?_pixel? : ∀ col row values, raster.pixel? col row = some values →
    ∀ band, values[band]? = raster.sample? band col row

theorem tellsPlaces_of_toRaster (h : spec.toRaster = .ok raster) : spec.TellsPlaces raster where
  width := (size_of_toRaster h).1
  height := (size_of_toRaster h).2
  bands := bands_of_toRaster h
  bytes := by
    rw [(parts_of_toRaster h).2.1]
    exact pixels?_of_addressable (addressable_of_toRaster h)
  sample? := sample?_of_toRaster h
  pixel? := pixel?_of_toRaster h
  getElem?_pixel? := by
    intro col row values hpixel band
    exact Raster.getElem?_pixel? hpixel band

/-- The samples of a raster of accepted extent are made as long as three bytes a pixel can be
addressed. They fill the shape, each stands where its row, its column and its band say, and the
raster in memory is made of them. Where they cannot be addressed the program is broken off. Places
are told as machine words tell them, also where the sum of row and column wraps. -/
theorem toRaster_tells_places (h : spec.transform = .ok transform) :
    (3 * spec.width * spec.height ≤ Numeral.limitSigned64 →
      ∃ pixels raster, spec.pixels? = some pixels ∧ spec.toRaster = .ok raster ∧
        pixels.size = 3 * spec.width * spec.height ∧
        (∀ row < spec.height, ∀ col < spec.width, ∀ band < 3,
          Bytes.at? pixels (3 * (row * spec.width + col) + band) =
            some ((encodePixel row col).band band)) ∧
        spec.TellsPlaces raster) ∧
      (Numeral.limitSigned64 < 3 * spec.width * spec.height →
        spec.pixels? = none ∧ spec.toRaster = .error .brokenOff) ∧
      ∀ row col : UInt64,
        encodePixel row.toNat col.toNat =
            ⟨(row % 256).toUInt8, (col % 256).toUInt8, ((row + col) % 256).toUInt8⟩ ∧
          (encodePixel row.toNat col.toNat).blue.toNat =
            (row.toNat % 256 + col.toNat % 256) % 256 := by
  refine ⟨?_, ?_, ?_⟩
  · intro hroom
    have haddressable := (addressable_iff h).mpr hroom
    have hpixels : spec.pixels? = some spec.pixels := by
      rw [pixels?_of_addressable haddressable, bytes_samples]
    have hraster := toRaster_of_transform h haddressable
    refine ⟨spec.pixels, _, hpixels, hraster, size_pixels spec, ?_,
      tellsPlaces_of_toRaster hraster⟩
    intro row hrow col hcol band hband
    exact at?_pixels hrow hcol hband
  · intro hlarge
    have haddressable : ¬ spec.IsAddressable := by
      rw [addressable_iff h]
      exact Nat.not_le.mpr hlarge
    exact ⟨pixels?_of_not_addressable haddressable, toRaster_of_not_addressable h haddressable⟩
  · intro row col
    exact ⟨encodePixel_toNat row col, toNat_blue_encodePixel row.toNat col.toNat⟩

theorem toRaster_tells_places_twoByOne :
    ∃ transform raster,
      SyntheticRaster.transform { width := 2, height := 1 } = .ok transform ∧
        SyntheticRaster.toRaster { width := 2, height := 1 } = .ok raster ∧
        raster.sample? 2 1 0 = some 1 ∧ raster.sample? 0 2 0 = none ∧
        raster.pixel? 1 0 = some [0, 1, 1] := by
  have hok : (SyntheticRaster.transform { width := 2, height := 1 }).isOk = true := by
    decide +kernel
  cases htransform : SyntheticRaster.transform { width := 2, height := 1 } with
  | error fault =>
      rw [htransform] at hok
      cases hok
  | ok transform =>
      rcases (toRaster_tells_places htransform).1 (by decide) with
        ⟨_, raster, _, hraster, _, _, htells⟩
      exact ⟨transform, raster, rfl, hraster, htells.sample? 2 1 0, htells.sample? 0 2 0,
        htells.pixel? 1 0⟩

/-- A row of pixels that is accepted and whose samples cannot be addressed. -/
theorem toRaster_breaks_off :
    ¬ ∀ (spec : SyntheticRaster) (transform : GeoTransform), 1 ≤ spec.width → 1 ≤ spec.height →
      spec.transform = .ok transform → ∃ raster, spec.toRaster = .ok raster := by
  intro hraster
  have hok : (SyntheticRaster.transform { width := 4611686018427387904, height := 1 }).isOk =
      true := by decide +kernel
  cases htransform : SyntheticRaster.transform { width := 4611686018427387904, height := 1 } with
  | error fault =>
      rw [htransform] at hok
      cases hok
  | ok transform =>
      rcases hraster _ transform (by decide) (by decide) htransform with ⟨raster, hmade⟩
      have haddressable := addressable_of_toRaster hmade
      rw [addressable_iff htransform] at haddressable
      exact absurd haddressable (by decide)

end SyntheticRaster
end TileAudit
