import TileAudit.Proofs.Tile.Edits
import TileAudit.Synthetic

/-!
# What a comparison detects

Every pixel of a self-describing raster tells its row and its column modulo 256. So two tiles that
are drawn from such a raster match exactly when their pixels come from the same rows and columns
modulo 256, however the tiles were laid over it. Rows that are shifted show in the red and the blue
samples of every pixel, and exchanged bands show wherever the column is not a multiple of 256.
-/

namespace TileAudit

/-!
## Colours that tell a place

A colour tells the row and the column modulo 256, and no more.
-/

namespace Colour

def exchanged (c : Colour) : Colour :=
  ⟨c.blue, c.green, c.red⟩

def differingBands (c c' : Colour) : Nat :=
  (List.range tileBands).countP fun band => c.band band ≠ c'.band band

variable {c c' : Colour}

theorem eq_of_bands (h : ∀ band, band < tileBands → c.band band = c'.band band) : c = c' := by
  have hred : c.red = c'.red := h 0 (by decide)
  have hgreen : c.green = c'.green := h 1 (by decide)
  have hblue : c.blue = c'.blue := h 2 (by decide)
  cases c
  cases c'
  cases hred
  cases hgreen
  cases hblue
  rfl

theorem differingBands_self (c : Colour) : c.differingBands c = 0 := by
  unfold differingBands
  rw [List.countP_eq_zero]
  intro band _
  simp

theorem differingBands_eq_two (hred : c.red ≠ c'.red) (hgreen : c.green = c'.green)
    (hblue : c.blue ≠ c'.blue) : c.differingBands c' = 2 := by
  unfold differingBands
  show [0, 1, 2].countP _ = 2
  simp [band, hred, hgreen, hblue]

end Colour

theorem UInt8.ofNat_eq_iff (a b : Nat) : UInt8.ofNat a = UInt8.ofNat b ↔ a % 256 = b % 256 := by
  rw [← UInt8.toNat_inj, UInt8.toNat_ofNat', UInt8.toNat_ofNat']

section

variable {row col row' col' : Nat}

theorem encodePixel_eq_iff :
    encodePixel row col = encodePixel row' col' ↔
      row % 256 = row' % 256 ∧ col % 256 = col' % 256 := by
  unfold encodePixel
  rw [Colour.mk.injEq, UInt8.ofNat_eq_iff, UInt8.ofNat_eq_iff, UInt8.ofNat_eq_iff]
  omega

theorem differingBands_of_shifted (h : row % 256 ≠ row' % 256) :
    (encodePixel row col).differingBands (encodePixel row' col) = 2 := by
  apply Colour.differingBands_eq_two
  · intro hred
    exact h ((UInt8.ofNat_eq_iff row row').mp hred)
  · rfl
  · intro hblue
    have hsum := (UInt8.ofNat_eq_iff (row + col) (row' + col)).mp hblue
    omega

theorem differingBands_of_exchanged (row col : Nat) :
    (encodePixel row col).differingBands (encodePixel row col).exchanged =
      if col % 256 ≠ 0 then 2 else 0 := by
  have hsame : UInt8.ofNat row = UInt8.ofNat (row + col) ↔ col % 256 = 0 := by
    rw [UInt8.ofNat_eq_iff]
    omega
  by_cases hcol : col % 256 = 0
  · have hexchanged : (encodePixel row col).exchanged = encodePixel row col := by
      unfold Colour.exchanged encodePixel
      rw [hsame.mpr hcol]
    rw [if_neg (not_not_intro hcol), hexchanged, Colour.differingBands_self]
  · rw [if_pos hcol]
    apply Colour.differingBands_eq_two
    · exact mt hsame.mp hcol
    · rfl
    · exact fun hblue => hcol (hsame.mp hblue.symm)

end

/-!
## Square tiles given by their colours

Where every pixel differs in `k` bands or in none, the mismatches are counted pixel by pixel.
-/

theorem countP_flatMap_of_blocks {α β : Type} {f : α → List β} {p : β → Bool} {q : α → Bool}
    {k : Nat} {xs : List α} (h : ∀ x ∈ xs, (f x).countP p = if q x then k else 0) :
    (xs.flatMap f).countP p = k * xs.countP q := by
  induction xs with
  | nil => rfl
  | cons x rest ih =>
      have hrest := ih fun y hy => h y (List.mem_cons_of_mem x hy)
      rw [List.flatMap_cons, List.countP_append, hrest, h x List.mem_cons_self, List.countP_cons,
        Nat.mul_add, Nat.add_comm]
      cases q x with
      | false => simp
      | true => simp

namespace Tile

structure Shows (tile : Tile) (size : Nat) (colour : Nat → Nat → Colour) : Prop where
  height : tile.height = size
  width : tile.width = size
  samples : ∀ {px py band}, px < size → py < size → band < tileBands →
    tile.get? px py band = some ((colour px py).band band)

def exchanged (tile : Tile) : Tile :=
  Tile.ofFn tile.height tile.width fun row col =>
    { red := (tile.get? col row 2).getD 0
      green := (tile.get? col row 1).getD 0
      blue := (tile.get? col row 0).getD 0 }

theorem Shows.exchanged {tile : Tile} {size : Nat} {colour : Nat → Nat → Colour}
    (h : tile.Shows size colour) :
    tile.exchanged.Shows size fun px py => (colour px py).exchanged := by
  refine ⟨h.height, h.width, ?_⟩
  intro px py band hpx hpy hband
  have hcol : px < tile.width := by
    rw [h.width]
    exact hpx
  have hrow : py < tile.height := by
    rw [h.height]
    exact hpy
  unfold Tile.exchanged
  rw [get?_ofFn _ hrow hcol hband, h.samples hpx hpy (by decide), h.samples hpx hpy (by decide),
    h.samples hpx hpy (by decide)]
  rfl

namespace Shows

variable {expected actual : Tile} {size k : Nat} {colour colour' : Nat → Nat → Colour}
  (h : expected.Shows size colour) (h' : actual.Shows size colour')

include h h'

theorem shape_eq : expected.shape = actual.shape :=
  Prod.ext (h.height.trans h'.height.symm) (h.width.trans h'.width.symm)

theorem differs_iff {p : SamplePlace} (hp : p ∈ expected.places) :
    expected.sample? p ≠ actual.sample? p ↔
      (colour p.col p.row).band p.band ≠ (colour' p.col p.row).band p.band := by
  rcases SamplePlace.mem_all.mp hp with ⟨hrow, hcol, hband⟩
  rw [h.height] at hrow
  rw [h.width] at hcol
  have hexpected : expected.sample? p = some ((colour p.col p.row).band p.band) :=
    h.samples hcol hrow hband
  have hactual : actual.sample? p = some ((colour' p.col p.row).band p.band) :=
    h'.samples hcol hrow hband
  rw [hexpected, hactual, ne_eq, ne_eq, Option.some.injEq]

theorem matched_iff_colours :
    (expected.compare (some actual)).matched = true ↔
      ∀ px py, px < size → py < size → colour px py = colour' px py := by
  rw [matched_iff (h.shape_eq h'), differingPlaces_eq_nil_iff]
  constructor
  · intro hsame px py hpx hpy
    apply Colour.eq_of_bands
    intro band hband
    have hmem : SamplePlace.mk py px band ∈ expected.places := by
      refine SamplePlace.mem_all.mpr ⟨?_, ?_, hband⟩
      · rw [h.height]
        exact hpy
      · rw [h.width]
        exact hpx
    by_contra hne
    exact (h.differs_iff h' hmem).mpr hne (hsame _ hmem)
  · intro hcolours p hp
    by_contra hne
    rcases SamplePlace.mem_all.mp hp with ⟨hrow, hcol, _⟩
    rw [h.height] at hrow
    rw [h.width] at hcol
    apply (h.differs_iff h' hp).mp hne
    rw [hcolours p.col p.row hcol hrow]

theorem mismatchCount_of_pixels {q : Nat × Nat → Bool}
    (hpixels : ∀ px py, px < size → py < size →
      (colour px py).differingBands (colour' px py) = if q (px, py) then k else 0) :
    (expected.compare (some actual)).mismatchCount =
      k * (pixelPlaces size size).countP q := by
  rw [mismatchCount_eq (h.shape_eq h'), length_differingPlaces]
  have hcount : (expected.places.countP fun p => expected.sample? p ≠ actual.sample? p) =
      expected.places.countP fun p =>
        (colour p.col p.row).band p.band ≠ (colour' p.col p.row).band p.band := by
    refine List.countP_congr fun p hp => ?_
    rw [decide_eq_true_iff, decide_eq_true_iff]
    exact h.differs_iff h' hp
  rw [hcount]
  unfold places
  rw [h.height, h.width, all_eq_flatMap_pixelPlaces]
  apply countP_flatMap_of_blocks
  rintro ⟨px, py⟩ hplace
  rcases mem_pixelPlaces.mp hplace with ⟨hpx, hpy⟩
  rw [List.countP_map]
  exact hpixels px py hpx hpy

theorem band_ne_one_of_differs
    (hgreen : ∀ px py, px < size → py < size → (colour px py).green = (colour' px py).green)
    {p : SamplePlace} (hp : p ∈ expected.differingPlaces actual) : p.band ≠ 1 := by
  rcases mem_differingPlaces.mp hp with ⟨hmem, hne⟩
  rcases SamplePlace.mem_all.mp hmem with ⟨hrow, hcol, _⟩
  rw [h.height] at hrow
  rw [h.width] at hcol
  intro hband
  apply (h.differs_iff h' hmem).mp hne
  rw [hband]
  exact hgreen p.col p.row hcol hrow

theorem band_ne_one_of_mismatch
    (hgreen : ∀ px py, px < size → py < size → (colour px py).green = (colour' px py).green)
    {m : Mismatch} (hm : m ∈ (expected.compare (some actual)).mismatches) : m.band ≠ 1 := by
  rw [mismatches_eq (h.shape_eq h')] at hm
  rcases List.mem_map.mp hm with ⟨p, hp, rfl⟩
  exact h.band_ne_one_of_differs h' hgreen (List.mem_of_mem_take hp)

end Shows
end Tile

/-!
## Tiles drawn from a self-describing raster

A tile is drawn by editing a black square pixel by pixel. Any map from pixels to rows and columns
may tell where the colours come from.
-/

/-- The row and the column of a raster that each pixel of a tile is taken from. -/
structure SourceMap where
  row : Nat → Nat → Nat
  col : Nat → Nat → Nat

namespace SourceMap

def colour (f : SourceMap) (px py : Nat) : Colour :=
  encodePixel (f.row px py) (f.col px py)

def edits (f : SourceMap) (size : Nat) : List PixelEdit :=
  (Tile.pixelPlaces size size).map fun place => ⟨place.1, place.2, f.colour place.1 place.2⟩

variable {f : SourceMap} {size px py : Nat}

theorem mem_edits {e : PixelEdit} :
    e ∈ f.edits size ↔ (e.col < size ∧ e.row < size) ∧ e.colour = f.colour e.col e.row := by
  rcases e with ⟨col, row, colour⟩
  unfold edits
  rw [List.mem_map]
  constructor
  · rintro ⟨place, hplace, heq⟩
    cases heq
    exact ⟨Tile.mem_pixelPlaces.mp hplace, rfl⟩
  · rintro ⟨hplace, hcolour⟩
    refine ⟨(col, row), Tile.mem_pixelPlaces.mpr hplace, ?_⟩
    exact congrArg (PixelEdit.mk col row) hcolour.symm

theorem exists_last_edit (f : SourceMap) (hpx : px < size) (hpy : py < size) :
    ∃ e, PixelEdit.last? (f.edits size) (px, py) = some e ∧ e.colour = f.colour px py := by
  cases hlast : PixelEdit.last? (f.edits size) (px, py) with
  | none =>
      have hmem : PixelEdit.mk px py (f.colour px py) ∈ f.edits size :=
        mem_edits.mpr ⟨⟨hpx, hpy⟩, rfl⟩
      exact absurd rfl (PixelEdit.last?_eq_none_iff.mp hlast _ hmem)
  | some e =>
      rcases PixelEdit.mem_of_last? hlast with ⟨hmem, hplace⟩
      have hcolour := (mem_edits.mp hmem).2
      cases hplace
      exact ⟨e, rfl, hcolour⟩

theorem exists_drawn (f : SourceMap) (size : Nat) :
    ∃ tile, (Tile.black size).setPixels? (f.edits size) = some tile ∧ tile.Shows size f.colour := by
  have hin : ∀ e ∈ f.edits size,
      e.col < (Tile.black size).width ∧ e.row < (Tile.black size).height :=
    fun e he => (mem_edits.mp he).1
  rcases (Tile.black size).exists_setPixels? (f.edits size) hin with ⟨tile, hset, hedited⟩
  refine ⟨tile, hset, hedited.height, hedited.width, ?_⟩
  intro px py band hpx hpy hband
  rcases exists_last_edit f hpx hpy with ⟨e, hlast, hcolour⟩
  rw [hedited.samples hband, Tile.sampleAfter?_of_last? hlast, hcolour]

end SourceMap

namespace Tile

/-- Tiles drawn from a self-describing raster match when their pixels come from the same rows and
columns modulo 256, whatever the size of the raster. Rows shifted by anything but a multiple of 256
show in two bands of every pixel, and bands that are exchanged in two bands of the pixels whose
column is not a multiple of 256; the second band shows neither. -/
theorem compare_tells_sources (size : Nat) (f g : SourceMap) :
    ∃ drawn drawn', (black size).setPixels? (f.edits size) = some drawn ∧
      (black size).setPixels? (g.edits size) = some drawn' ∧
      ((drawn.compare (some drawn')).matched = true ↔
        ∀ px py, px < size → py < size →
          f.row px py % 256 = g.row px py % 256 ∧ f.col px py % 256 = g.col px py % 256) ∧
      (∀ d : Int, ¬ 256 ∣ d →
        (∀ px py, px < size → py < size →
          (g.row px py : Int) = f.row px py + d ∧ g.col px py = f.col px py) →
        (drawn.compare (some drawn')).mismatchCount = 2 * size * size ∧
        (∀ p ∈ drawn.differingPlaces drawn', p.band ≠ 1) ∧
        ∀ m ∈ (drawn.compare (some drawn')).mismatches, m.band ≠ 1) ∧
      (drawn.compare (some drawn.exchanged)).mismatchCount =
        2 * (pixelPlaces size size).countP (fun place => f.col place.1 place.2 % 256 ≠ 0) ∧
      (∀ p ∈ drawn.differingPlaces drawn.exchanged, p.band ≠ 1) ∧
      ∀ m ∈ (drawn.compare (some drawn.exchanged)).mismatches, m.band ≠ 1 := by
  rcases f.exists_drawn size with ⟨drawn, hset, hshows⟩
  rcases g.exists_drawn size with ⟨drawn', hset', hshows'⟩
  have hexchanged := hshows.exchanged
  refine ⟨drawn, drawn', hset, hset', ?_, ?_, ?_, ?_, ?_⟩
  · rw [hshows.matched_iff_colours hshows']
    refine forall_congr' fun px => forall_congr' fun py => forall_congr' fun _ =>
      forall_congr' fun _ => ?_
    exact encodePixel_eq_iff
  · intro d hd hshifted
    have hgreen : ∀ px py, px < size → py < size →
        (f.colour px py).green = (g.colour px py).green := by
      intro px py hpx hpy
      show UInt8.ofNat (f.col px py) = UInt8.ofNat (g.col px py)
      rw [(hshifted px py hpx hpy).2]
    refine ⟨?_, fun p => hshows.band_ne_one_of_differs hshows' hgreen,
      fun m => hshows.band_ne_one_of_mismatch hshows' hgreen⟩
    have hpixels : ∀ px py, px < size → py < size →
        (f.colour px py).differingBands (g.colour px py) = if true then 2 else 0 := by
      intro px py hpx hpy
      rcases hshifted px py hpx hpy with ⟨hrow, hcol⟩
      unfold SourceMap.colour
      rw [hcol, if_pos rfl]
      apply differingBands_of_shifted
      omega
    have hcount := hshows.mismatchCount_of_pixels hshows' (q := fun _ => true) hpixels
    rw [List.countP_true, length_pixelPlaces, ← Nat.mul_assoc] at hcount
    exact hcount
  · refine hshows.mismatchCount_of_pixels hexchanged fun px py _ _ => ?_
    simp only [decide_eq_true_iff]
    exact differingBands_of_exchanged (f.row px py) (f.col px py)
  · exact fun p => hshows.band_ne_one_of_differs hexchanged fun _ _ _ _ => rfl
  · exact fun m => hshows.band_ne_one_of_mismatch hexchanged fun _ _ _ _ => rfl

def twoRows (first : Nat) : SourceMap :=
  ⟨fun _ py => first + py, fun px _ => px⟩

theorem compare_tells_sources_twoRows :
    ¬ (256 : Int) ∣ 1 ∧
      (∀ px py, px < 2 → py < 2 → ((twoRows 1).row px py : Int) = (twoRows 0).row px py + 1 ∧
        (twoRows 1).col px py = (twoRows 0).col px py) ∧
      ∃ drawn drawn', (black 2).setPixels? ((twoRows 0).edits 2) = some drawn ∧
        (black 2).setPixels? ((twoRows 1).edits 2) = some drawn' ∧
        (drawn.compare (some drawn')).matched = false ∧
        (drawn.compare (some drawn')).mismatchCount = 8 ∧
        (drawn.compare (some drawn.exchanged)).mismatchCount = 4 := by
  have hd : ¬ (256 : Int) ∣ 1 := by decide
  have hshifted : ∀ px py, px < 2 → py < 2 →
      ((twoRows 1).row px py : Int) = (twoRows 0).row px py + 1 ∧
        (twoRows 1).col px py = (twoRows 0).col px py := by
    intro px py _ _
    refine ⟨?_, rfl⟩
    show ((1 + py : Nat) : Int) = (0 + py : Nat) + 1
    omega
  rcases compare_tells_sources 2 (twoRows 0) (twoRows 1) with
    ⟨drawn, drawn', hset, hset', hmatched, hrows, hbands, _⟩
  refine ⟨hd, hshifted, drawn, drawn', hset, hset', ?_, (hrows 1 hd hshifted).1, ?_⟩
  · rw [Bool.eq_false_iff, ne_eq, hmatched]
    intro hsame
    exact absurd (hsame 0 0 (by decide) (by decide)).1 (by decide)
  · rw [hbands]
    decide +kernel

end Tile
end TileAudit
