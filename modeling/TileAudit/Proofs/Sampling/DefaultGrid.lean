import TileAudit.Proofs.Binary64.Scaling
import TileAudit.Proofs.Geometry.GeoTransform
import TileAudit.Proofs.Sampling.Room

/-!
# Sampling on the default grid

On the default grid every step from a tile pixel to a raster coordinate is exact, but for the
last division. Its exact result keeps so far below the next integer that rounding never reaches
it, so the sampler takes the pixel that a renderer finds with integers alone.
-/

namespace TileAudit

open Binary64 Float.Model

/-!
## The default raster

The default raster has pixels of 15625/8 map units, the first one in the north-west.
-/

theorem hasValue_million : HasValue 1000000.0 1000000 :=
  hasValue_decimal (m := 10000000) (by norm_num)
    (isRepresentable_ofNat (n := 1000000) (by norm_num)) (by norm_num)

theorem hasValue_thousand : HasValue 1000.0 1000 :=
  hasValue_decimal (m := 10000) (by norm_num)
    (isRepresentable_ofNat (n := 1000) (by norm_num)) (by norm_num)

theorem hasValue_north : HasValue 500000.0 500000 :=
  hasValue_decimal (m := 5000000) (by norm_num)
    (isRepresentable_ofNat (n := 500000) (by norm_num)) (by norm_num)

theorem hasValue_west : HasValue (-500000.0) (-500000) :=
  hasValue_north.neg

theorem hasValue_two : HasValue 2.0 2 :=
  hasValue_decimal (m := 20) (by norm_num)
    (isRepresentable_ofNat (n := 2) (by norm_num)) (by norm_num)

structure IsDefaultTransform (t : GeoTransform) : Prop where
  originX : HasValue t.originX (-500000)
  originY : HasValue t.originY 500000
  pixelWidth : HasValue t.pixelWidth (15625 / 8)
  pixelHeight : HasValue t.pixelHeight (-(15625 / 8))

theorem northUp_default :
    ∃ t, GeoTransform.northUp (BoundingBox.centered Point.origin defaultExtentSize) 512 512 =
      .ok t ∧ IsDefaultTransform t := by
  have hhalf : HasValue (defaultExtentSize / 2.0) 500000 := by
    have hdiv := hasValue_million.div hasValue_two (by norm_num)
    norm_num at hdiv
    exact hdiv (isRepresentable_ofNat (n := 500000) (by norm_num))
  have hwest : HasValue (0.0 - defaultExtentSize / 2.0) (-500000) := by
    have hsub := hasValue_zero.sub hhalf
    rw [zero_sub] at hsub
    exact hsub hasValue_west.isRepresentable
  have heast : HasValue (0.0 + defaultExtentSize / 2.0) 500000 := by
    have hadd := hasValue_zero.add hhalf
    rw [zero_add] at hadd
    exact hadd hhalf.isRepresentable
  have hcount : HasValue (Float.ofNat 512) 512 := hasValue_ofNat (n := 512) (by norm_num)
  have hsize : IsRepresentable (15625 / 8) :=
    isRepresentable_dyadic (n := 15625) (k := 3) (by norm_num) (by norm_num)
  have hwidth : HasValue ((0.0 + defaultExtentSize / 2.0 - (0.0 - defaultExtentSize / 2.0)) /
      Float.ofNat 512) (15625 / 8) := by
    have hsub := heast.sub hwest
    norm_num at hsub
    have hdiv := (hsub hasValue_million.isRepresentable).div hcount (by norm_num)
    norm_num at hdiv
    exact hdiv hsize
  have hheight : HasValue ((0.0 - defaultExtentSize / 2.0 - (0.0 + defaultExtentSize / 2.0)) /
      Float.ofNat 512) (-(15625 / 8)) := by
    have hsub := hwest.sub heast
    norm_num at hsub
    have hdiv := (hsub hasValue_million.neg.isRepresentable).div hcount (by norm_num)
    norm_num at hdiv
    exact hdiv hsize.neg
  rcases GeoTransform.ofAffine_of_values (a := ⟨0.0 - defaultExtentSize / 2.0, _, 0.0,
    0.0 + defaultExtentSize / 2.0, 0.0, _⟩) rfl rfl hwidth (by norm_num) hheight
    (by norm_num) with ⟨t, hadmitted, haffine⟩
  refine ⟨t, ?_, ?_, ?_, ?_, ?_⟩
  · unfold GeoTransform.northUp
    rw [if_neg (by decide)]
    exact hadmitted
  · rw [haffine]
    exact hwest
  · rw [haffine]
    exact heast
  · rw [haffine]
    exact hwidth
  · rw [haffine]
    exact hheight

/-!
## Pixel centres

Distances are counted in half tile pixels from the edge of the raster. Up to level 30 every place at
such a distance is a number of binary64.
-/

def centre (index p : Nat) : Nat :=
  2 * (256 * index + p) + 1

section

variable {zoom : UInt32}

theorem hasValue_resolution (hzoom : zoom.toNat ≤ 30) :
    HasValue (Config.defaultGrid.resolution zoom) (2000 / 2 ^ (zoom.toNat + 1)) := by
  have hpower : HasValue (powerOfTwo zoom.toNat) (2 ^ zoom.toNat) :=
    hasValue_powerOfTwo (by omega)
  have hvalue : (1000 : ℚ) / 2 ^ zoom.toNat = (2000 : ℤ) / 2 ^ (zoom.toNat + 1) := by
    rw [pow_succ]
    push_cast
    field_simp
    norm_num
  have hdiv := hasValue_thousand.div hpower (by positivity)
  rw [hvalue] at hdiv
  exact hdiv (isRepresentable_dyadic (by norm_num) (by omega))

theorem hasValue_offset (hzoom : zoom.toNat ≤ 30) {index : Nat} (hindex : index < 2 ^ 32) :
    HasValue (Float.ofNat index * (Float.ofNat 256 * Config.defaultGrid.resolution zoom))
      (512000 * index / 2 ^ (zoom.toNat + 1)) := by
  have hspan : HasValue (Float.ofNat 256 * Config.defaultGrid.resolution zoom)
      (512000 / 2 ^ (zoom.toNat + 1)) := by
    have hvalue : ((256 : Nat) : ℚ) * (2000 / 2 ^ (zoom.toNat + 1)) =
        (512000 : ℤ) / 2 ^ (zoom.toNat + 1) := by
      push_cast
      ring
    have hmul := (hasValue_ofNat (n := 256) (by norm_num)).mul (hasValue_resolution hzoom)
    rw [hvalue] at hmul
    exact hmul (isRepresentable_dyadic (by norm_num) (by omega))
  have hvalue : (index : ℚ) * (512000 / 2 ^ (zoom.toNat + 1)) =
      ((512000 * index : ℤ) : ℚ) / 2 ^ (zoom.toNat + 1) := by
    push_cast
    ring
  have hmul := (hasValue_ofNat (n := index) (by omega)).mul hspan
  rw [hvalue] at hmul
  have hoffset := hmul (isRepresentable_dyadic (by rw [abs_of_nonneg (by omega)]; omega) (by omega))
  push_cast at hoffset
  exact hoffset

theorem hasValue_inner (hzoom : zoom.toNat ≤ 30) {p : Nat} (hp : p < 256) :
    HasValue ((Float.ofNat p + 0.5) * Config.defaultGrid.resolution zoom)
      (1000 * (2 * p + 1) / 2 ^ (zoom.toNat + 1)) := by
  have hcentre : HasValue (Float.ofNat p + 0.5) (p + 1 / 2) := by
    have hvalue : (p : ℚ) + 1 / 2 = ((2 * p + 1 : ℤ) : ℚ) / 2 ^ 1 := by
      push_cast
      ring
    have hrepresentable : IsRepresentable ((p : ℚ) + 1 / 2) := by
      rw [hvalue]
      exact isRepresentable_dyadic (by rw [abs_of_nonneg (by omega)]; omega) (by norm_num)
    exact (hasValue_ofNat (n := p) (by omega)).add hasValue_half hrepresentable
  have hvalue : ((p : ℚ) + 1 / 2) * (2000 / 2 ^ (zoom.toNat + 1)) =
      ((1000 * (2 * p + 1) : ℤ) : ℚ) / 2 ^ (zoom.toNat + 1) := by
    push_cast
    ring
  have hmul := hcentre.mul (hasValue_resolution hzoom)
  rw [hvalue] at hmul
  have hinner := hmul (isRepresentable_dyadic (by rw [abs_of_nonneg (by omega)]; omega) (by omega))
  push_cast at hinner
  exact hinner

theorem isRepresentable_place {z : Nat} (hz : z ≤ 30) {n : Nat} (hn : n < 2 ^ 52) :
    IsRepresentable (500000 - n / 2 ^ (z + 1)) := by
  have hvalue : (500000 : ℚ) - n / 2 ^ (z + 1) =
      ((500000 * 2 ^ (z + 1) - n : ℤ) : ℚ) / 2 ^ (z + 1) := by
    push_cast
    field_simp
  have hpower : (2 : ℤ) ^ (z + 1) ≤ 2 ^ 31 := pow_le_pow_right₀ (by norm_num) (by omega)
  have hpositive : (0 : ℤ) < 2 ^ (z + 1) := by positivity
  rw [hvalue]
  refine isRepresentable_dyadic ?_ (by omega)
  rw [abs_lt]
  constructor
  · linarith
  · linarith

theorem hasValue_easting (hzoom : zoom.toNat ≤ 30) {index p : Nat} (hindex : index < 2 ^ 32)
    (hp : p < 256) {west : Float} (hwest : HasValue west (-500000)) :
    HasValue (-500000.0 + Float.ofNat index * (Float.ofNat 256 * Config.defaultGrid.resolution zoom)
        + (Float.ofNat p + 0.5) * Config.defaultGrid.resolution zoom - west)
      (1000 * centre index p / 2 ^ (zoom.toNat + 1)) := by
  have hcorner := hasValue_west.add (hasValue_offset hzoom hindex)
  have hcorner_value : -500000 + 512000 * (index : ℚ) / 2 ^ (zoom.toNat + 1) =
      -(500000 - ((512000 * index : Nat) : ℚ) / 2 ^ (zoom.toNat + 1)) := by
    push_cast
    ring
  rw [hcorner_value] at hcorner
  have hplace := (hcorner (isRepresentable_place hzoom (by omega)).neg).add
    (hasValue_inner hzoom hp)
  have hplace_value : -(500000 - ((512000 * index : Nat) : ℚ) / 2 ^ (zoom.toNat + 1)) +
      1000 * (2 * p + 1) / 2 ^ (zoom.toNat + 1) =
      -(500000 - ((1000 * centre index p : Nat) : ℚ) / 2 ^ (zoom.toNat + 1)) := by
    unfold centre
    push_cast
    ring
  rw [hplace_value] at hplace
  have hdistance := (hplace (isRepresentable_place hzoom (by unfold centre; omega)).neg).sub hwest
  have hdistance_value : -(500000 - ((1000 * centre index p : Nat) : ℚ) / 2 ^ (zoom.toNat + 1)) -
      -500000 = ((1000 * centre index p : ℤ) : ℚ) / 2 ^ (zoom.toNat + 1) := by
    push_cast
    ring
  rw [hdistance_value] at hdistance
  have hvalue := hdistance (isRepresentable_dyadic
    (by rw [abs_of_nonneg (by omega)]; unfold centre; push_cast; omega) (by omega))
  push_cast at hvalue
  exact hvalue

theorem hasValue_northing (hzoom : zoom.toNat ≤ 30) {index p : Nat} (hindex : index < 2 ^ 32)
    (hp : p < 256) {north : Float} (hnorth : HasValue north 500000) :
    HasValue (500000.0 - Float.ofNat index * (Float.ofNat 256 * Config.defaultGrid.resolution zoom)
        - (Float.ofNat p + 0.5) * Config.defaultGrid.resolution zoom - north)
      (-(1000 * centre index p / 2 ^ (zoom.toNat + 1))) := by
  have hcorner := hasValue_north.sub (hasValue_offset hzoom hindex)
  have hcorner_value : 500000 - 512000 * (index : ℚ) / 2 ^ (zoom.toNat + 1) =
      500000 - ((512000 * index : Nat) : ℚ) / 2 ^ (zoom.toNat + 1) := by
    push_cast
    ring
  rw [hcorner_value] at hcorner
  have hplace := (hcorner (isRepresentable_place hzoom (by omega))).sub (hasValue_inner hzoom hp)
  have hplace_value : 500000 - ((512000 * index : Nat) : ℚ) / 2 ^ (zoom.toNat + 1) -
      1000 * (2 * p + 1) / 2 ^ (zoom.toNat + 1) =
      500000 - ((1000 * centre index p : Nat) : ℚ) / 2 ^ (zoom.toNat + 1) := by
    unfold centre
    push_cast
    ring
  rw [hplace_value] at hplace
  have hdistance := (hplace (isRepresentable_place hzoom (by unfold centre; omega))).sub hnorth
  have hdistance_value : 500000 - ((1000 * centre index p : Nat) : ℚ) / 2 ^ (zoom.toNat + 1) -
      500000 = -(((1000 * centre index p : ℤ) : ℚ) / 2 ^ (zoom.toNat + 1)) := by
    push_cast
    ring
  rw [hdistance_value] at hdistance
  have hvalue := hdistance (isRepresentable_dyadic
    (by rw [abs_of_nonneg (by omega)]; unfold centre; push_cast; omega) (by omega)).neg
  push_cast at hvalue
  exact hvalue

end

/-!
## Source pixels

The exact quotient keeps away from the next integer by more than rounding can move it.
-/

def sourceIndex (zoom index p : Nat) : Nat :=
  (2 * (256 * index + p) + 1) * 1000 * 512 / (1000000 * 2 ^ (zoom + 1))

theorem sourceIndex_eq (z index p : Nat) :
    sourceIndex z index p = 32 * centre index p / (125 * 2 ^ z) := by
  have hnumerator : (2 * (256 * index + p) + 1) * 1000 * 512 =
      16000 * (32 * centre index p) := by
    unfold centre
    ring
  have hdenominator : 1000000 * 2 ^ (z + 1) = 16000 * (125 * 2 ^ z) := by ring
  unfold sourceIndex
  rw [hnumerator, hdenominator, Nat.mul_div_mul_left _ _ (by norm_num)]

theorem quotient_bounds {z : Nat} (hz : z ≤ 30) (index p : Nat) :
    (sourceIndex z index p : ℚ) ≤ 1000 * centre index p / 2 ^ (z + 1) / (15625 / 8) ∧
      (1000 * centre index p / 2 ^ (z + 1) / (15625 / 8) : ℚ) ≤
        ((sourceIndex z index p + 1) * 2 ^ 44 - 1) / 2 ^ 44 := by
  obtain ⟨d, hd⟩ : ∃ d, 125 * 2 ^ z = d := ⟨_, rfl⟩
  have hquotient : (1000 * centre index p / 2 ^ (z + 1) / (15625 / 8) : ℚ) =
      32 * centre index p / d := by
    rw [← hd, pow_succ]
    push_cast
    field_simp
    ring
  have hpos : 0 < d := by
    rw [← hd]
    positivity
  have hsmall : d ≤ 2 ^ 44 := by
    have hpower : 2 ^ z ≤ 2 ^ 30 := Nat.pow_le_pow_right (by norm_num) hz
    omega
  have hlow := Nat.div_mul_le_self (32 * centre index p) d
  have hhigh := Nat.lt_mul_div_succ (32 * centre index p) hpos
  rw [hquotient, sourceIndex_eq, hd]
  have hposq : (0 : ℚ) < d := by exact_mod_cast hpos
  constructor
  · rw [le_div_iff₀ hposq]
    exact_mod_cast hlow
  · have hstep : (32 * centre index p + 1 : ℚ) ≤
        d * ((32 * centre index p / d : Nat) + 1) := by exact_mod_cast hhigh
    have hsmallq : (d : ℚ) ≤ 2 ^ 44 := by exact_mod_cast hsmall
    rw [div_le_div_iff₀ hposq (by positivity)]
    linarith

theorem cell?_quotient {z : Nat} (hz : z ≤ 30) {index p : Nat} (hindex : index < 2 ^ 32)
    (hp : p < 256) {distance size : Float} {a b : ℚ} (hdistance : HasValue distance a)
    (hsize : HasValue size b) (hb : b ≠ 0)
    (hquotient : a / b = 1000 * centre index p / 2 ^ (z + 1) / (15625 / 8)) :
    cell? (distance / size) 512 =
      if sourceIndex z index p < 512 then some (sourceIndex z index p) else none := by
  obtain ⟨c, hc⟩ : ∃ c, sourceIndex z index p = c := ⟨_, rfl⟩
  have hbounds := quotient_bounds hz index p
  rw [← hquotient, hc] at hbounds
  rw [hc]
  have hnext : (((c : ℚ) + 1) * 2 ^ 44 - 1) / 2 ^ 44 < c + 1 := by
    rw [div_lt_iff₀ (by positivity)]
    linarith
  -- The quotient lies between two numbers of 53 bits that belong to one cell, so rounding keeps it
  -- in the cell. Outside the raster it is enough to stay beyond its side.
  by_cases hinside : c < 512
  · have hlast : IsRepresentable ((((c : ℚ) + 1) * 2 ^ 44 - 1) / 2 ^ 44) := by
      have hdyadic := isRepresentable_dyadic (n := ((c : ℤ) + 1) * 2 ^ 44 - 1) (k := 44)
        (by rw [abs_of_nonneg (by omega)]; omega) (by norm_num)
      push_cast at hdyadic
      exact hdyadic
    rcases hdistance.div_between hsize hb (isRepresentable_ofNat (n := c) (by omega)) hlast
      hbounds.1 hbounds.2 with ⟨q, hvalue, hlow, hhigh⟩
    have hcount : (c : ℚ) + 1 ≤ 512 := by exact_mod_cast hinside
    have hnonneg : (0 : ℚ) ≤ c := by positivity
    have hfloor : ⌊q⌋₊ = c := (Nat.floor_eq_iff (by linarith)).mpr ⟨hlow, by linarith⟩
    have hin : 0 ≤ q ∧ q < ((512 : Nat) : ℚ) := by
      push_cast
      exact ⟨by linarith, by linarith⟩
    rw [hvalue.cell? (by norm_num), if_pos hin, if_pos hinside, hfloor]
  · have hsmall : c ≤ 32 * centre index p := by
      rw [← hc, sourceIndex_eq]
      exact Nat.div_le_self _ _
    have hlimit : IsRepresentable ((c + 1 : Nat) : ℚ) :=
      isRepresentable_ofNat (by unfold centre at hsmall; omega)
    have hcount : ((512 : Nat) : ℚ) ≤ c := by exact_mod_cast not_lt.mp hinside
    rcases hdistance.div_between hsize hb (isRepresentable_ofNat (n := 512) (by norm_num)) hlimit
      (le_trans hcount hbounds.1)
      (le_trans hbounds.2 (by push_cast; exact hnext.le)) with ⟨q, hvalue, hlow, _⟩
    have hout : ¬ (0 ≤ q ∧ q < ((512 : Nat) : ℚ)) := fun h => absurd h.2 (not_lt.mpr hlow)
    rw [hvalue.cell? (by norm_num), if_neg hout, if_neg hinside]

section

variable {raster : Raster} {tile : TileAddress}

theorem columnAt?_default (htransform : IsDefaultTransform raster.transform)
    (hwidth : raster.width = 512) (hzoom : tile.zoom.toNat ≤ 30) {px : Nat} (hpx : px < 256) :
    raster.columnAt? ((Config.defaultGrid.sampleGrid tile).x px) =
      if sourceIndex tile.zoom.toNat tile.col.toNat px < 512 then
        some (sourceIndex tile.zoom.toNat tile.col.toNat px)
      else none := by
  have hdistance := hasValue_easting hzoom tile.col.toNat_lt hpx htransform.originX
  unfold Raster.columnAt?
  rw [hwidth]
  exact cell?_quotient hzoom tile.col.toNat_lt hpx hdistance htransform.pixelWidth (by norm_num) rfl

theorem rowAt?_default (htransform : IsDefaultTransform raster.transform)
    (hheight : raster.height = 512) (hzoom : tile.zoom.toNat ≤ 30) {py : Nat} (hpy : py < 256) :
    raster.rowAt? ((Config.defaultGrid.sampleGrid tile).y py) =
      if sourceIndex tile.zoom.toNat tile.row.toNat py < 512 then
        some (sourceIndex tile.zoom.toNat tile.row.toNat py)
      else none := by
  have hdistance := hasValue_northing hzoom tile.row.toNat_lt hpy htransform.originY
  unfold Raster.rowAt?
  rw [hheight]
  exact cell?_quotient hzoom tile.row.toNat_lt hpy hdistance htransform.pixelHeight (by norm_num)
    (neg_div_neg_eq _ _)

end

/-- The colour that a renderer gives a tile pixel, in integers. -/
def renderedColour (tile : TileAddress) (px py : Nat) : Colour :=
  let col := sourceIndex tile.zoom.toNat tile.col.toNat px
  let row := sourceIndex tile.zoom.toNat tile.row.toNat py
  if col < 512 ∧ row < 512 then encodePixel row col else Colour.black

theorem toRaster_default :
    ∃ raster, SyntheticRaster.toRaster { width := 512, height := 512 } = .ok raster ∧
      IsDefaultTransform raster.transform := by
  rcases northUp_default with ⟨t, hadmitted, htransform⟩
  have hspec : SyntheticRaster.transform { width := 512, height := 512 } = .ok t := hadmitted
  exact ⟨_, SyntheticRaster.toRaster_of_transform hspec rfl, htransform⟩

theorem colourAtCentre_default {raster : Raster}
    (hraster : SyntheticRaster.toRaster { width := 512, height := 512 } = .ok raster)
    (htransform : IsDefaultTransform raster.transform) {tile : TileAddress}
    (hzoom : tile.zoom.toNat ≤ 30) {px py : Nat} (hpx : px < 256) (hpy : py < 256) :
    raster.colourAtCentre (Config.defaultGrid.sampleGrid tile) px py =
      renderedColour tile px py := by
  rcases SyntheticRaster.size_of_toRaster hraster with ⟨hwidth, hheight⟩
  have hcolumn := columnAt?_default htransform hwidth hzoom hpx
  have hrow := rowAt?_default htransform hheight hzoom hpy
  unfold Raster.colourAtCentre renderedColour
  rw [hcolumn, hrow]
  generalize sourceIndex tile.zoom.toNat tile.col.toNat px = col
  generalize sourceIndex tile.zoom.toNat tile.row.toNat py = row
  by_cases hcol_in : col < 512
  · by_cases hrow_in : row < 512
    · rw [if_pos hcol_in, if_pos hrow_in, if_pos ⟨hcol_in, hrow_in⟩]
      exact SyntheticRaster.colourAt_of_toRaster hraster hrow_in hcol_in
    · rw [if_pos hcol_in, if_neg hrow_in,
        if_neg (fun h : col < 512 ∧ row < 512 => hrow_in h.2)]
  · rw [if_neg hcol_in, if_neg (fun h : col < 512 ∧ row < 512 => hcol_in h.1)]

/-- On the default grid the expected tile of every address up to level 30 is the tile that is
rendered in integers. -/
theorem expectedTile_default (env : Environment) :
    ∃ raster, SyntheticRaster.toRaster
        { width := (Config.ofEnvironment env).rasterWidth,
          height := (Config.ofEnvironment env).rasterHeight } = .ok raster ∧
      ∀ tile : TileAddress, tile.zoom.toNat ≤ 30 → ∀ w,
        ∃ expected w', Effect.run (raster.expectedTile (Config.ofEnvironment env).grid tile) w =
            (.ok expected, w') ∧
          expected.shape = (256, 256) ∧
          ∀ px py band, px < 256 → py < 256 → band < tileBands →
            expected.get? px py band = some ((renderedColour tile px py).band band) := by
  rcases toRaster_default with ⟨raster, hraster, htransform⟩
  refine ⟨raster, hraster, ?_⟩
  intro tile hzoom w
  have hroom : Tile.HasRoom Config.defaultGrid.tileSize := by decide
  refine ⟨raster.sampleTile Config.defaultGrid tile, _,
    Raster.run_expectedTile_of_room hroom w, rfl, ?_⟩
  intro px py band hpx hpy hband
  rw [← colourAtCentre_default hraster htransform hzoom hpx hpy]
  exact Raster.get?_sample raster (Config.defaultGrid.sampleGrid tile) hpx hpy hband

theorem expectedTile_default_north_edge :
    (1 : UInt32).toNat ≤ 30 ∧
      ∃ raster, SyntheticRaster.toRaster { width := 512, height := 512 } = .ok raster ∧
        ∃ expected w', Effect.run (raster.expectedTile Config.defaultGrid ⟨1, 3, 0⟩)
            ⟨FileTree.empty, [], []⟩ = (.ok expected, w') ∧
          expected.get? 255 0 1 = some 6 := by
  rcases expectedTile_default [] with ⟨raster, hraster, htiles⟩
  rcases htiles ⟨1, 3, 0⟩ (by decide) ⟨FileTree.empty, [], []⟩ with
    ⟨expected, w', hrun, _, hpixels⟩
  have hpixel := hpixels 255 0 1 (by decide) (by decide) (by decide)
  exact ⟨by decide, raster, hraster, expected, w', hrun, hpixel⟩

end TileAudit
