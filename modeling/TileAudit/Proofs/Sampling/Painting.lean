import TileAudit.Proofs.Sampling.Inside
import TileAudit.Proofs.Sampling.Room
import TileAudit.Proofs.Tile.Pixels

/-!
# Painting a tile

A tile may also be painted in place: from a black tile, row by row and pixel by pixel, where a pixel
whose centre is outside the raster is passed over. Each step finishes one pixel and touches no
other, so the painting fails only for want of room, and ends with the tile that is given pixel by
pixel.
-/

namespace TileAudit

@[simp]
theorem Colour.band_black (band : Nat) : Colour.black.band band = 0 := by
  match band with
  | 0 => rfl
  | 1 => rfl
  | _ + 2 => rfl

namespace Raster

def sourceColour (raster : Raster) (col row : Nat) : Colour :=
  match raster.pixel? col row with
  | some values => Colour.ofValues values
  | none => Colour.black

def paintPixel (raster : Raster) (g : SampleGrid) (tile : Tile) (place : Nat × Nat) : Option Tile :=
  match raster.sourceAt? g place.1 place.2 with
  | some (col, row) => tile.setPixel? place.1 place.2 (raster.sourceColour col row)
  | none => some tile

/-- The tile over a square of pixel centres, painted in place; nothing if there is no room for it,
or if a pixel that is painted is not in the tile. -/
def paint (raster : Raster) (g : SampleGrid) : Option Tile := do
  let black ← Tile.zeros? g.size
  (Tile.pixelPlaces g.size g.size).foldlM (raster.paintPixel g) black

section

variable {raster : Raster} {g : SampleGrid} {px py col row : Nat}

theorem sourceColour_of_sourceAt? (h : raster.sourceAt? g px py = some (col, row)) :
    raster.sourceColour col row = raster.colourAt col row := by
  rcases lt_of_pixelAt? h with ⟨hcol, hrow⟩
  rcases exists_pixel? hcol hrow with ⟨values, hpixel, _, hvalues⟩
  unfold sourceColour
  rw [hpixel, colourAt_eq_ofValues hvalues]

theorem colourAtCentre_of_some (h : raster.sourceAt? g px py = some (col, row)) :
    raster.colourAtCentre g px py = raster.colourAt col row := by
  rcases pixelAt?_eq_some_iff.mp h with ⟨hcol, hrow⟩
  unfold colourAtCentre
  rw [hcol, hrow]

theorem colourAtCentre_of_none (h : raster.sourceAt? g px py = none) :
    raster.colourAtCentre g px py = Colour.black := by
  unfold colourAtCentre
  cases hcol : raster.columnAt? (g.x px) with
  | none => rfl
  | some col =>
      cases hrow : raster.rowAt? (g.y py) with
      | none => rfl
      | some row =>
          have hsome : raster.sourceAt? g px py = some (col, row) :=
            pixelAt?_eq_some_iff.mpr ⟨hcol, hrow⟩
          rw [h] at hsome
          cases hsome

end

/-!
## One pixel after another

The invariant says which pixels are done: they have their colours, and all others are still black. A
pixel that is passed over is black already.
-/

/-- The pixels that are done have their colours, and all others are still black. -/
structure IsPainted (raster : Raster) (g : SampleGrid) (done : List (Nat × Nat)) (tile : Tile) :
    Prop where
  height : tile.height = g.size
  width : tile.width = g.size
  samples : ∀ {px py band}, px < g.size → py < g.size → band < tileBands →
    tile.get? px py band =
      some (if (px, py) ∈ done then (raster.colourAtCentre g px py).band band else 0)

theorem isPainted_black (raster : Raster) (g : SampleGrid) :
    raster.IsPainted g [] (Tile.black g.size) := by
  refine ⟨rfl, rfl, ?_⟩
  intro px py band hpx hpy hband
  unfold Tile.black
  rw [Tile.get?_ofFn _ hpy hpx hband, Colour.band_black, if_neg List.not_mem_nil]

namespace IsPainted

variable {raster : Raster} {g : SampleGrid} {done : List (Nat × Nat)} {tile tile' : Tile}
  {px py : Nat}

theorem of_passed (h : raster.IsPainted g done tile) (hnone : raster.sourceAt? g px py = none) :
    raster.IsPainted g (done ++ [(px, py)]) tile := by
  refine ⟨h.height, h.width, ?_⟩
  intro px' py' band hpx' hpy' hband
  rw [h.samples hpx' hpy' hband]
  by_cases hdone : (px', py') ∈ done
  · rw [if_pos hdone, if_pos (List.mem_append_left _ hdone)]
  · rw [if_neg hdone]
    by_cases hplace : (px', py') = (px, py)
    · cases hplace
      rw [if_pos (List.mem_append_right done (List.mem_singleton.mpr rfl)),
        colourAtCentre_of_none hnone, Colour.band_black]
    · rw [if_neg (by rw [List.mem_append, List.mem_singleton]; exact not_or.mpr ⟨hdone, hplace⟩)]

theorem of_replaces (h : raster.IsPainted g done tile)
    (hset : tile.Replaces px py (raster.colourAtCentre g px py) tile') :
    raster.IsPainted g (done ++ [(px, py)]) tile' := by
  refine ⟨hset.height.trans h.height, hset.width.trans h.width, ?_⟩
  intro px' py' band hpx' hpy' hband
  by_cases hplace : px' = px ∧ py' = py
  · rcases hplace with ⟨rfl, rfl⟩
    rw [hset.pixel band hband,
      if_pos (List.mem_append_right done (List.mem_singleton.mpr rfl))]
  · rw [hset.others px' py' band hplace, h.samples hpx' hpy' hband]
    have hmem : (px', py') ∈ done ++ [(px, py)] ↔ (px', py') ∈ done := by
      rw [List.mem_append, List.mem_singleton, Prod.mk.injEq]
      exact or_iff_left hplace
    simp only [hmem]

theorem step (h : raster.IsPainted g done tile) (hpx : px < g.size) (hpy : py < g.size) :
    ∃ tile', raster.paintPixel g tile (px, py) = some tile' ∧
      raster.IsPainted g (done ++ [(px, py)]) tile' := by
  unfold paintPixel
  cases hsource : raster.sourceAt? g px py with
  | none => exact ⟨tile, rfl, h.of_passed hsource⟩
  | some place =>
      rcases place with ⟨col, row⟩
      have hcolour : raster.sourceColour col row = raster.colourAtCentre g px py := by
        rw [sourceColour_of_sourceAt? hsource, colourAtCentre_of_some hsource]
      have hcol : px < tile.width := by
        rw [h.width]
        exact hpx
      have hrow : py < tile.height := by
        rw [h.height]
        exact hpy
      rcases tile.exists_setPixel? (raster.sourceColour col row) hcol hrow with
        ⟨tile', hset, hreplaces⟩
      rw [hcolour] at hreplaces
      exact ⟨tile', hset, h.of_replaces hreplaces⟩

theorem run (h : raster.IsPainted g done tile) (places : List (Nat × Nat))
    (hin : ∀ px py, (px, py) ∈ places → px < g.size ∧ py < g.size) :
    ∃ tile', places.foldlM (raster.paintPixel g) tile = some tile' ∧
      raster.IsPainted g (done ++ places) tile' := by
  induction places generalizing done tile with
  | nil =>
      refine ⟨tile, rfl, ?_⟩
      rw [List.append_nil]
      exact h
  | cons place rest ih =>
      rcases place with ⟨px, py⟩
      rcases hin px py List.mem_cons_self with ⟨hpx, hpy⟩
      rcases h.step hpx hpy with ⟨next, hnext, hpainted⟩
      rcases ih hpainted (fun px' py' hmem => hin px' py' (List.mem_cons_of_mem _ hmem)) with
        ⟨tile', hrest, hfinal⟩
      refine ⟨tile', ?_, ?_⟩
      · rw [List.foldlM_cons, hnext]
        exact hrest
      · rw [List.append_assoc, List.singleton_append] at hfinal
        exact hfinal

end IsPainted

theorem paint_of_room (raster : Raster) {g : SampleGrid} (hroom : Tile.HasRoom g.size) :
    raster.paint g = some (raster.sample g) := by
  have hin : ∀ px py, (px, py) ∈ Tile.pixelPlaces g.size g.size → px < g.size ∧ py < g.size :=
    fun px py => Tile.mem_pixelPlaces.mp
  rcases (isPainted_black raster g).run _ hin with ⟨tile, hrun, hpainted⟩
  have hagrees : tile.Agrees (raster.sample g) := by
    refine ⟨hpainted.height, hpainted.width, ?_⟩
    intro row col band hrow hcol hband
    rw [hpainted.height] at hrow
    rw [hpainted.width] at hcol
    have hdone : (col, row) ∈ [] ++ Tile.pixelPlaces g.size g.size :=
      Tile.mem_pixelPlaces.mpr ⟨hcol, hrow⟩
    rw [hpainted.samples hcol hrow hband, if_pos hdone, raster.get?_sample g hcol hrow hband]
  unfold paint
  rw [Tile.zeros?_of_room hroom]
  show (Tile.pixelPlaces g.size g.size).foldlM (raster.paintPixel g) (Tile.black g.size) = _
  rw [hrun, hagrees.eq]

theorem paint_of_no_room (raster : Raster) {g : SampleGrid} (hroom : ¬ Tile.HasRoom g.size) :
    raster.paint g = none := by
  unfold paint
  rw [Tile.zeros?_of_no_room hroom]
  rfl

/-!
## What a sampled tile holds

A sampled tile holds the samples of the raster at the pixel centres that are inside, and zeros
elsewhere.
-/

def isOutside (raster : Raster) (g : SampleGrid) (place : Nat × Nat) : Bool :=
  (raster.sourceAt? g place.1 place.2).isNone

def hasBlackSource (raster : Raster) (g : SampleGrid) (place : Nat × Nat) : Bool :=
  match raster.sourceAt? g place.1 place.2 with
  | some (col, row) =>
      decide (∀ band, band < min raster.bands tileBands → raster.sample? band col row = some 0)
  | none => false

/-- A tile is painted without failing, has a square shape of three bands, and holds the samples of
the raster at the pixel centres that are inside; all else in it is zero. -/
structure IsSampled (raster : Raster) (g : SampleGrid) (tile : Tile) : Prop where
  painted : raster.paint g = some tile
  shape : tile.shape = (g.size, g.size)
  isSome_iff : ∀ px py band, (tile.get? px py band).isSome ↔ px < g.size ∧ py < g.size ∧ band < 3
  inside : ∀ px py band col row, px < g.size → py < g.size → band < 3 →
    raster.sourceAt? g px py = some (col, row) →
      (band < raster.bands → tile.get? px py band = raster.sample? band col row) ∧
        (raster.bands ≤ band → tile.get? px py band = some 0)
  outside : ∀ px py band, px < g.size → py < g.size → band < 3 →
    raster.sourceAt? g px py = none → tile.get? px py band = some 0
  black : tile.countBlack =
    (Tile.pixelPlaces g.size g.size).countP (raster.isOutside g) +
      (Tile.pixelPlaces g.size g.size).countP (raster.hasBlackSource g)

section

variable {raster : Raster} {g : SampleGrid} {px py col row band : Nat}

theorem band_colourAt (raster : Raster) (col row : Nat) (hband : band < tileBands) :
    (raster.colourAt col row).band band = (raster.sample? band col row).getD 0 := by
  match band, hband with
  | 0, _ => rfl
  | 1, _ => rfl
  | 2, _ => rfl

theorem band_colourAt_eq_zero_iff (hcol : col < raster.width) (hrow : row < raster.height) :
    (∀ band, band < tileBands → (raster.colourAt col row).band band = 0) ↔
      ∀ band, band < min raster.bands tileBands → raster.sample? band col row = some 0 := by
  constructor
  · intro h band hband
    rcases lt_min_iff.mp hband with ⟨hsource, htile⟩
    rcases exists_sample? hsource hcol hrow with ⟨value, hvalue⟩
    have hzero := h band htile
    rw [band_colourAt raster col row htile, hvalue] at hzero
    rw [hvalue]
    exact congrArg some hzero
  · intro h band hband
    rw [band_colourAt raster col row hband]
    rcases lt_or_ge band raster.bands with hsource | hmissing
    · rw [h band (lt_min hsource hband)]
      rfl
    · rw [sample?_eq_none_of_bands hmissing]
      rfl

theorem isBlackAt_sample_iff (hpx : px < g.size) (hpy : py < g.size) :
    (raster.sample g).isBlackAt (px, py) = true ↔
      ∀ band, band < tileBands → (raster.colourAtCentre g px py).band band = 0 := by
  unfold Tile.isBlackAt
  rw [decide_eq_true_iff]
  refine forall_congr' fun band => forall_congr' fun hband => ?_
  rw [raster.get?_sample g hpx hpy hband, Option.some.injEq]

theorem isBlackAt_sample_of_outside (hpx : px < g.size) (hpy : py < g.size)
    (hout : raster.isOutside g (px, py) = true) : (raster.sample g).isBlackAt (px, py) = true := by
  have hnone : raster.sourceAt? g px py = none := Option.isNone_iff_eq_none.mp hout
  rw [isBlackAt_sample_iff hpx hpy]
  intro band _
  rw [colourAtCentre_of_none hnone, Colour.band_black]

theorem isBlackAt_sample_inside (hpx : px < g.size) (hpy : py < g.size) :
    ((raster.sample g).isBlackAt (px, py) && !raster.isOutside g (px, py)) =
      raster.hasBlackSource g (px, py) := by
  unfold isOutside hasBlackSource
  cases hsource : raster.sourceAt? g px py with
  | none => exact Bool.and_false _
  | some place =>
      rcases place with ⟨col, row⟩
      rcases lt_of_pixelAt? hsource with ⟨hcol, hrow⟩
      rw [Bool.eq_iff_iff]
      show (_ && true) = true ↔ decide _ = true
      rw [Bool.and_true, isBlackAt_sample_iff hpx hpy, colourAtCentre_of_some hsource,
        band_colourAt_eq_zero_iff hcol hrow, decide_eq_true_iff]

theorem countBlack_sample (raster : Raster) (g : SampleGrid) :
    (raster.sample g).countBlack =
      (Tile.pixelPlaces g.size g.size).countP (raster.isOutside g) +
        (Tile.pixelPlaces g.size g.size).countP (raster.hasBlackSource g) := by
  rw [Tile.countBlack_eq]
  show (Tile.pixelPlaces g.size g.size).countP _ = _
  rw [List.countP_eq_countP_filter_add _ _ (raster.isOutside g)]
  congr 1
  · rw [List.countP_filter]
    refine List.countP_congr fun place hplace => ?_
    rcases Tile.mem_pixelPlaces.mp hplace with ⟨hpx, hpy⟩
    rw [Bool.and_eq_true]
    exact and_iff_right_of_imp (isBlackAt_sample_of_outside hpx hpy)
  · rw [List.countP_filter]
    refine List.countP_congr fun place hplace => ?_
    rcases Tile.mem_pixelPlaces.mp hplace with ⟨hpx, hpy⟩
    rw [← isBlackAt_sample_inside hpx hpy]

theorem isSampled_sample (raster : Raster) {g : SampleGrid} (hroom : Tile.HasRoom g.size) :
    raster.IsSampled g (raster.sample g) := by
  refine ⟨raster.paint_of_room hroom, rfl, ?_, ?_, ?_, countBlack_sample raster g⟩
  · intro px py band
    rw [Tile.isSome_get?_iff]
    exact and_left_comm
  · intro px py band col row hpx hpy hband hsource
    rcases lt_of_pixelAt? hsource with ⟨hcol, hrow⟩
    rw [raster.get?_sample g hpx hpy hband, colourAtCentre_of_some hsource,
      band_colourAt raster col row hband]
    constructor
    · intro hin
      rcases exists_sample? hin hcol hrow with ⟨value, hvalue⟩
      rw [hvalue]
      rfl
    · intro hmissing
      rw [sample?_eq_none_of_bands hmissing]
      rfl
  · intro px py band hpx hpy hband hsource
    rw [raster.get?_sample g hpx hpy hband, colourAtCentre_of_none hsource, Colour.band_black]

end

structure SharesColours (raster raster' : Raster) : Prop where
  transform : raster.transform = raster'.transform
  width : raster.width = raster'.width
  height : raster.height = raster'.height
  samples : ∀ band col row, band < tileBands →
    raster.sample? band col row = raster'.sample? band col row

theorem SharesColours.sample_eq {raster raster' : Raster} (h : raster.SharesColours raster')
    (g : SampleGrid) : raster.sample g = raster'.sample g := by
  have hcolumns : raster.sourceColumns g = raster'.sourceColumns g := by
    unfold sourceColumns columnAt?
    rw [h.transform, h.width]
  have hrows : raster.sourceRows g = raster'.sourceRows g := by
    unfold sourceRows rowAt?
    rw [h.transform, h.height]
  have hcolours : raster.colourAt = raster'.colourAt := by
    funext col row
    show Colour.mk ((raster.sample? 0 col row).getD 0) ((raster.sample? 1 col row).getD 0)
      ((raster.sample? 2 col row).getD 0) = _
    rw [h.samples 0 col row (by decide), h.samples 1 col row (by decide),
      h.samples 2 col row (by decide)]
    rfl
  unfold sample
  rw [hcolumns, hrows, hcolours]

theorem sampleBounds_eq (raster : Raster) (box : BoundingBox) (size : Nat) :
    raster.sampleBounds box size = raster.sample (box.sampleGrid size) := by
  unfold sampleBounds
  by_cases h : size = 0
  · rw [if_pos h, h]
    have hagrees : (Tile.black 0).Agrees (raster.sample (box.sampleGrid 0)) :=
      ⟨rfl, rfl, fun row _ _ hrow => absurd hrow (Nat.not_lt_zero row)⟩
    exact hagrees.eq
  · rw [if_neg h]

structure IsSampledWithRoom (raster : Raster) (g : SampleGrid) (sampled : Option Tile) : Prop where
  room : 3 * g.size * g.size ≤ Numeral.limitSigned64 →
    ∃ tile, sampled = some tile ∧ raster.IsSampled g tile
  no_room : Numeral.limitSigned64 < 3 * g.size * g.size → sampled = none ∧ raster.paint g = none

theorem isSampledWithRoom_of_eq {raster : Raster} {g : SampleGrid} {sampled : Option Tile}
    (hsampled : sampled = (Tile.zeros? g.size).map fun _ => raster.sample g) :
    raster.IsSampledWithRoom g sampled where
  room := by
    intro h
    have hroom := (Tile.hasRoom_iff g.size).mpr h
    rw [Tile.zeros?_of_room hroom] at hsampled
    exact ⟨raster.sample g, hsampled, isSampled_sample raster hroom⟩
  no_room := by
    intro h
    have hroom : ¬ Tile.HasRoom g.size := by
      rw [Tile.hasRoom_iff]
      exact Nat.not_le.mpr h
    rw [Tile.zeros?_of_no_room hroom] at hsampled
    exact ⟨hsampled, raster.paint_of_no_room hroom⟩

/-- Every tile that is sampled, for an address or for a box of any size whose samples can be
addressed, is painted without failing and holds the samples of the raster pixel by pixel. Its
columns and rows are looked up separately, and only the first three bands count. -/
theorem sampled_pixel_by_pixel (raster : Raster) :
    (∀ grid tile, raster.IsSampledWithRoom (grid.sampleGrid tile) (raster.sampleTile? grid tile)) ∧
      (∀ box size, raster.IsSampledWithRoom (box.sampleGrid size) (raster.sampleBounds? box size)) ∧
      (∀ g px py px' py' col row col' row', raster.sourceAt? g px py = some (col, row) →
        raster.sourceAt? g px' py' = some (col', row') →
          (px = px' → col = col') ∧ (py = py' → row = row')) ∧
      (∀ raster' : Raster, raster.SharesColours raster' →
        (∀ grid tile, raster.sampleTile? grid tile = raster'.sampleTile? grid tile) ∧
          ∀ box size, raster.sampleBounds? box size = raster'.sampleBounds? box size) := by
  refine ⟨?_, ?_, ?_, ?_⟩
  · intro grid tile
    exact isSampledWithRoom_of_eq rfl
  · intro box size
    apply isSampledWithRoom_of_eq
    unfold sampleBounds?
    rw [sampleBounds_eq]
    rfl
  · intro g px py px' py' col row col' row' hsource hsource'
    rcases pixelAt?_eq_some_iff.mp hsource with ⟨hcol, hrow⟩
    rcases pixelAt?_eq_some_iff.mp hsource' with ⟨hcol', hrow'⟩
    constructor
    · rintro rfl
      rw [hcol] at hcol'
      exact Option.some.inj hcol'
    · rintro rfl
      rw [hrow] at hrow'
      exact Option.some.inj hrow'
  · intro raster' hshares
    constructor
    · intro grid tile
      unfold sampleTile? sampleTile
      rw [hshares.sample_eq (grid.sampleGrid tile)]
    · intro box size
      unfold sampleBounds?
      rw [sampleBounds_eq, sampleBounds_eq, hshares.sample_eq (box.sampleGrid size)]

theorem sampled_pixel_by_pixel_default :
    ∃ raster, SyntheticRaster.toRaster { width := 512, height := 512 } = .ok raster ∧
      ∃ sampled, raster.sampleTile? Config.defaultGrid ⟨0, 0, 0⟩ = some sampled ∧
        ∃ col row,
          raster.sourceAt? (Config.defaultGrid.sampleGrid ⟨0, 0, 0⟩) 0 0 = some (col, row) ∧
            sampled.get? 0 0 0 = raster.sample? 0 col row := by
  rcases exists_sourceAt?_default with ⟨raster, hraster, col, row, hsource⟩
  rcases ((sampled_pixel_by_pixel raster).1 Config.defaultGrid ⟨0, 0, 0⟩).room (by decide) with
    ⟨sampled, hsome, hsampled⟩
  have hsize : 0 < (Config.defaultGrid.sampleGrid ⟨0, 0, 0⟩).size := by decide
  have hvalue := hsampled.inside 0 0 0 col row hsize hsize (by decide) hsource
  exact ⟨raster, hraster, sampled, hsome, col, row, hsource, hvalue.1 raster.filled.2.2⟩

/-- A size whose square has more samples than can be addressed. -/
theorem sampled_breaks_off :
    ¬ ∀ (raster : Raster) (box : BoundingBox) (size : Nat),
      ∃ sampled, raster.sampleBounds? box size = some sampled ∧
        raster.IsSampled (box.sampleGrid size) sampled := by
  intro hsamples
  rcases toRaster_default with ⟨raster, _⟩
  rcases hsamples raster (BoundingBox.centered Point.origin 1.0) 2147483648 with
    ⟨sampled, hsome, _⟩
  rw [sampleBounds?_of_no_room (by decide)] at hsome
  cases hsome

end Raster
end TileAudit
