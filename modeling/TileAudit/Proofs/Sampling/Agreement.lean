import TileAudit.Proofs.Binary64.Gaps
import TileAudit.Proofs.Binary64.Scaling
import TileAudit.Proofs.Sampling.Drift
import TileAudit.Proofs.Sampling.Painting

/-!
# Tiles of addresses and tiles of boxes

A tile is sampled for an address with the resolution of the grid, and for the box of that address
with the resolution that is left in the corners of the box. The corners are rounded, so the two
resolutions may differ, and with them the pixel centres. Two sets of pixel centres give one tile for
all rasters exactly if they are the same places, because a raster can be a single pixel around any
place.
-/

namespace TileAudit

open Binary64

namespace Point

def IsFinite (p : Point) : Prop :=
  p.x.isFinite = true ∧ p.y.isFinite = true

/-- Places with equal coordinates, or places that are both nowhere. -/
def SamePlace (p q : Point) : Prop :=
  ((p.x == q.x) = true ∧ (p.y == q.y) = true) ∨ (¬ p.IsFinite ∧ ¬ q.IsFinite)

end Point

def SampleGrid.centre (g : SampleGrid) (px py : Nat) : Point :=
  ⟨g.x px, g.y py⟩

namespace Raster

section

variable {raster : Raster} {x x' y y' : Float} {p q : Point}

theorem columnAt?_eq_of_x_beq (h : (x == x') = true) : raster.columnAt? x = raster.columnAt? x' := by
  rcases GeoTransform.exists_pixelWidth raster.transform with ⟨width, hwidth, hpos⟩
  exact (((sameNumber_of_beq h).sub_right _).div hwidth hpos.ne').cell? raster.width

theorem rowAt?_eq_of_y_beq (h : (y == y') = true) : raster.rowAt? y = raster.rowAt? y' := by
  rcases GeoTransform.exists_pixelHeight raster.transform with ⟨height, hheight, hne⟩
  exact (((sameNumber_of_beq h).sub_right _).div hheight hne).cell? raster.height

theorem pixelAt?_eq_none (h : ¬ p.IsFinite) : raster.pixelAt? p.x p.y = none := by
  cases hpixel : raster.pixelAt? p.x p.y with
  | none => rfl
  | some place => exact absurd (isFinite_of_pixelAt? hpixel) h

theorem pixelAt?_eq_of_samePlace (h : p.SamePlace q) :
    raster.pixelAt? p.x p.y = raster.pixelAt? q.x q.y := by
  rcases h with ⟨hx, hy⟩ | ⟨hp, hq⟩
  · unfold pixelAt?
    rw [columnAt?_eq_of_x_beq hx, rowAt?_eq_of_y_beq hy]
  · rw [pixelAt?_eq_none hp, pixelAt?_eq_none hq]

end

/-!
## A raster around one place

For every place there is a raster of one white pixel that holds it and nothing near to it. Such
rasters see whether two pixel centres are the same place.
-/

structure IsPinpoint (raster : Raster) (p : Point) : Prop where
  white : raster.colourAt 0 0 = ⟨255, 255, 255⟩
  holds : raster.pixelAt? p.x p.y = some (0, 0)
  only : ∀ {q : Point} {place}, raster.pixelAt? q.x q.y = some place →
    (p.x == q.x) = true ∧ (p.y == q.y) = true

theorem exists_isPinpoint {p : Point} (h : p.IsFinite) : ∃ raster : Raster, raster.IsPinpoint p := by
  rcases hasValue_of_isFinite h.1 with ⟨a, ha⟩
  rcases hasValue_of_isFinite h.2 with ⟨b, hb⟩
  -- The pixel is as small as a number can be, so that no second place falls into it.
  rcases GeoTransform.ofAffine_of_values (a := ⟨p.x, leastPositive, 0.0, p.y, 0.0, leastPositive⟩)
    rfl rfl hasValue_leastPositive leastGap_pos hasValue_leastPositive leastGap_pos.ne' with
    ⟨t, _, haffine⟩
  obtain ⟨raster, hraster⟩ : ∃ raster : Raster,
      raster = ⟨Samples.ofFn 1 1 tileBands fun _ _ _ => 255, t, defaultEpsg, by decide⟩ := ⟨_, rfl⟩
  have hcolumn : ∀ {x : Float} {c : ℚ}, HasValue x c →
      raster.columnAt? x = if a = c then some 0 else none := by
    intro x c hx
    rw [hraster, ← cell?_of_gap ha hx]
    show cell? ((x - t.originX) / t.pixelWidth) 1 = _
    rw [haffine]
  have hrow : ∀ {y : Float} {c : ℚ}, HasValue y c →
      raster.rowAt? y = if b = c then some 0 else none := by
    intro y c hy
    rw [hraster, ← cell?_of_gap hb hy]
    show cell? ((y - t.originY) / t.pixelHeight) 1 = _
    rw [haffine]
  have hsample : ∀ band, band < tileBands → raster.sample? band 0 0 = some 255 := by
    intro band hband
    rw [hraster]
    exact Samples.get?_ofFn _ Nat.one_pos Nat.one_pos hband
  refine ⟨raster, ?_, ?_, ?_⟩
  · show Colour.mk ((raster.sample? 0 0 0).getD 0) ((raster.sample? 1 0 0).getD 0)
      ((raster.sample? 2 0 0).getD 0) = _
    rw [hsample 0 (by decide), hsample 1 (by decide), hsample 2 (by decide)]
    rfl
  · exact pixelAt?_eq_some_iff.mpr
      ⟨(hcolumn ha).trans (if_pos rfl), (hrow hb).trans (if_pos rfl)⟩
  · intro q place hplace
    rcases isFinite_of_pixelAt? hplace with ⟨hx, hy⟩
    rcases hasValue_of_isFinite hx with ⟨c, hc⟩
    rcases hasValue_of_isFinite hy with ⟨d, hd⟩
    rcases pixelAt?_eq_some_iff.mp hplace with ⟨hcol, hrow'⟩
    rw [hcolumn hc] at hcol
    rw [hrow hd] at hrow'
    constructor
    · by_contra hne
      rw [if_neg fun hac => hne ((ha.beq_iff hc).mpr hac)] at hcol
      cases hcol
    · by_contra hne
      rw [if_neg fun hbd => hne ((hb.beq_iff hd).mpr hbd)] at hrow'
      cases hrow'

/-!
## Tiles over two squares of pixel centres

Two pixel centres in one source pixel, or both outside, give one colour. Two squares of centres give
one tile for all rasters exactly if the centres are the same places.
-/

section

variable {raster : Raster} {g g' : SampleGrid} {px py band : Nat}

theorem sourceAt?_eq_pixelAt? (raster : Raster) (g : SampleGrid) (px py : Nat) :
    raster.sourceAt? g px py = raster.pixelAt? (g.centre px py).x (g.centre px py).y :=
  rfl

theorem colourAtCentre_eq (h : raster.sourceAt? g px py = raster.sourceAt? g' px py) :
    raster.colourAtCentre g px py = raster.colourAtCentre g' px py := by
  cases hsource : raster.sourceAt? g' px py with
  | none => rw [colourAtCentre_of_none (h.trans hsource), colourAtCentre_of_none hsource]
  | some place => rw [colourAtCentre_of_some (h.trans hsource), colourAtCentre_of_some hsource]

theorem shape_sample (raster : Raster) (g : SampleGrid) :
    (raster.sample g).shape = (g.size, g.size) :=
  rfl

theorem get?_sample_eq (g g' : SampleGrid) (hsize : g.size = g'.size) (hpx : px < g.size)
    (hpy : py < g.size) (hband : band < tileBands)
    (h : raster.sourceAt? g px py = raster.sourceAt? g' px py) :
    (raster.sample g).get? px py band = (raster.sample g').get? px py band := by
  rw [raster.get?_sample g hpx hpy hband, colourAtCentre_eq h,
    raster.get?_sample g' (by rw [← hsize]; exact hpx) (by rw [← hsize]; exact hpy) hband]

theorem sample_eq_of_samePlace (g g' : SampleGrid) (hsize : g.size = g'.size)
    (h : ∀ px py, px < g.size → py < g.size → (g.centre px py).SamePlace (g'.centre px py)) :
    raster.sample g = raster.sample g' := by
  have hagrees : (raster.sample g).Agrees (raster.sample g') := by
    refine ⟨hsize, hsize, ?_⟩
    intro row col band hrow hcol hband
    apply get?_sample_eq g g' hsize hcol hrow hband
    rw [sourceAt?_eq_pixelAt?, sourceAt?_eq_pixelAt?]
    exact pixelAt?_eq_of_samePlace (h col row hcol hrow)
  exact hagrees.eq

theorem beq_of_samples_eq (hsize : g.size = g'.size)
    (h : ∀ raster : Raster, raster.sample g = raster.sample g') (hpx : px < g.size)
    (hpy : py < g.size) (hfinite : (g.centre px py).IsFinite) :
    ((g.centre px py).x == (g'.centre px py).x) = true ∧
      ((g.centre px py).y == (g'.centre px py).y) = true := by
  rcases exists_isPinpoint hfinite with ⟨raster, hpinpoint⟩
  have hwhite : raster.colourAtCentre g px py = ⟨255, 255, 255⟩ :=
    (colourAtCentre_of_some hpinpoint.holds).trans hpinpoint.white
  have hred : (raster.sample g).get? px py 0 = (raster.sample g').get? px py 0 := by
    rw [h raster]
  rw [raster.get?_sample g hpx hpy (by decide), hwhite,
    raster.get?_sample g' (by rw [← hsize]; exact hpx) (by rw [← hsize]; exact hpy)
      (by decide)] at hred
  cases hsource : raster.sourceAt? g' px py with
  | none =>
      rw [colourAtCentre_of_none hsource] at hred
      cases hred
  | some place =>
      rw [sourceAt?_eq_pixelAt?] at hsource
      exact hpinpoint.only (q := g'.centre px py) hsource

theorem sample_eq_iff (g g' : SampleGrid) (hsize : g.size = g'.size) :
    (∀ raster : Raster, raster.sample g = raster.sample g') ↔
      ∀ px py, px < g.size → py < g.size → (g.centre px py).SamePlace (g'.centre px py) := by
  constructor
  · intro h px py hpx hpy
    by_cases hfinite : (g.centre px py).IsFinite
    · exact Or.inl (beq_of_samples_eq hsize h hpx hpy hfinite)
    · by_cases hfinite' : (g'.centre px py).IsFinite
      · have hbeq := beq_of_samples_eq hsize.symm (fun raster => (h raster).symm)
          (by rw [← hsize]; exact hpx) (by rw [← hsize]; exact hpy) hfinite'
        exact Or.inl ⟨BEq.symm hbeq.1, BEq.symm hbeq.2⟩
      · exact Or.inr ⟨hfinite, hfinite'⟩
  · intro h raster
    exact sample_eq_of_samePlace g g' hsize h

end

end Raster

/-!
## Boxes with an exact width

Where the columns, the width and the east edge of a tile are numbers of binary64, nothing is lost in
the corners of its box and the resolution that is left is that of the grid.
-/

structure TileGrid.HasExactWidth (grid : TileGrid) (tile : TileAddress) (resolution west : ℚ) :
    Prop where
  resolution_eq : HasValue (grid.resolution tile.zoom) resolution
  resolution_ne : resolution ≠ 0
  west_eq : HasValue (grid.bounds tile).minx west
  columns : IsRepresentable grid.tileSize
  width : IsRepresentable (grid.tileSize * resolution)
  east : IsRepresentable (west + grid.tileSize * resolution)

namespace TileGrid

variable {grid : TileGrid} {tile : TileAddress} {resolution west : ℚ}

theorem HasExactWidth.sampleGrid_eq (h : grid.HasExactWidth tile resolution west)
    (hsize : 0 < grid.tileSize) :
    (grid.bounds tile).sampleGrid grid.tileSize = grid.sampleGrid tile := by
  have hcolumns := hasValue_ofNat_of_isRepresentable h.columns
  have hpos : (grid.tileSize : ℚ) ≠ 0 := by
    rw [Nat.cast_ne_zero]
    exact hsize.ne'
  have hwidth : HasValue (grid.bounds tile).width (grid.tileSize * resolution) := by
    have heast := h.west_eq.add ((hcolumns.mul h.resolution_eq) h.width) h.east
    have hsub := heast.sub h.west_eq
    rw [add_sub_cancel_left] at hsub
    exact hsub h.width
  have hquotient : HasValue ((grid.bounds tile).width / Float.ofNat grid.tileSize) resolution := by
    have hdiv := hwidth.div hcolumns hpos
    rw [mul_div_cancel_left₀ _ hpos] at hdiv
    exact hdiv h.resolution_eq.isRepresentable
  have hsame : (grid.bounds tile).width / Float.ofNat grid.tileSize = grid.resolution tile.zoom :=
    (sameNumber_of_beq ((hquotient.beq_iff h.resolution_eq).mpr rfl)).eq_of_not_isZero
      (hquotient.not_isZero h.resolution_ne)
  show SampleGrid.mk _ _ _ = SampleGrid.mk _ _ _
  rw [hsame]

theorem HasExactWidth.sampleBounds_eq (h : grid.HasExactWidth tile resolution west)
    (raster : Raster) :
    raster.sampleBounds (grid.bounds tile) grid.tileSize = raster.sampleTile grid tile := by
  rw [Raster.sampleBounds_eq, Raster.sampleTile]
  rcases Nat.eq_zero_or_pos grid.tileSize with hzero | hpos
  · apply Raster.sample_eq_of_samePlace ((grid.bounds tile).sampleGrid grid.tileSize)
      (grid.sampleGrid tile) rfl
    intro px py hpx
    have hnone : px < 0 := by
      rw [← hzero]
      exact hpx
    exact absurd hnone (Nat.not_lt_zero px)
  · rw [h.sampleGrid_eq hpos]

theorem hasExactWidth_default (hzoom : tile.zoom.toNat ≤ 30) :
    Config.defaultGrid.HasExactWidth tile (2000 / 2 ^ (tile.zoom.toNat + 1))
      (-(500000 - ((512000 * tile.col.toNat : Nat) : ℚ) / 2 ^ (tile.zoom.toNat + 1))) := by
  have hcol := tile.col.toNat_lt
  have hwidth : ((256 : Nat) : ℚ) * (2000 / 2 ^ (tile.zoom.toNat + 1)) =
      ((512000 : ℤ) : ℚ) / 2 ^ (tile.zoom.toNat + 1) := by
    push_cast
    ring
  refine ⟨hasValue_resolution hzoom, by positivity, ?_,
    isRepresentable_ofNat (n := 256) (by norm_num), ?_, ?_⟩
  · have hcorner := hasValue_west.add (hasValue_offset hzoom hcol)
    have hvalue : -500000 + 512000 * (tile.col.toNat : ℚ) / 2 ^ (tile.zoom.toNat + 1) =
        -(500000 - ((512000 * tile.col.toNat : Nat) : ℚ) / 2 ^ (tile.zoom.toNat + 1)) := by
      push_cast
      ring
    rw [hvalue] at hcorner
    exact hcorner (isRepresentable_place hzoom (by omega)).neg
  · show IsRepresentable (((256 : Nat) : ℚ) * _)
    rw [hwidth]
    exact isRepresentable_dyadic (by norm_num) (by omega)
  · have hvalue : -(500000 - ((512000 * tile.col.toNat : Nat) : ℚ) / 2 ^ (tile.zoom.toNat + 1)) +
        ((256 : Nat) : ℚ) * (2000 / 2 ^ (tile.zoom.toNat + 1)) =
        -(500000 - ((512000 * (tile.col.toNat + 1) : Nat) : ℚ) / 2 ^ (tile.zoom.toNat + 1)) := by
      push_cast
      ring
    show IsRepresentable (_ + ((256 : Nat) : ℚ) * _)
    rw [hvalue]
    exact (isRepresentable_place hzoom (by omega)).neg

theorem sampleBounds_default (hzoom : tile.zoom.toNat ≤ 30) (raster : Raster) :
    raster.sampleBounds (Config.defaultGrid.bounds tile) Config.defaultGrid.tileSize =
      raster.sampleTile Config.defaultGrid tile :=
  (hasExactWidth_default hzoom).sampleBounds_eq raster

theorem exists_isWithin_centre {px py : Nat} (hpx : px < grid.tileSize) (hpy : py < grid.tileSize)
    (h : ((grid.sampleGrid tile).centre px py).IsFinite)
    (h' : (((grid.bounds tile).sampleGrid grid.tileSize).centre px py).IsFinite) :
    ∃ m : grid.Measures tile,
      IsWithin (m.drift m.west) (((grid.bounds tile).sampleGrid grid.tileSize).centre px py).x
          ((grid.sampleGrid tile).centre px py).x ∧
        IsWithin (m.drift m.north) (((grid.bounds tile).sampleGrid grid.tileSize).centre px py).y
          ((grid.sampleGrid tile).centre px py).y := by
  have hpart := isFinite_of_mul (isFinite_of_add h'.1).2
  rcases Measures.exists_of_isFinite hpart.2 (isFinite_of_sub h'.2).1 with ⟨m⟩
  exact ⟨m, m.isWithin_x hpx h.1 h'.1, m.isWithin_y hpy h.2 h'.2⟩

end TileGrid
end TileAudit
