import TileAudit.Proofs.Comparison.Places

/-!
# Pixels of a tile

A pixel is three samples that lie side by side, and pixels lie apart. So replacing one pixel changes
its own samples only, and the black pixels are counted by looking at every place once.
-/

namespace TileAudit

theorem Samples.offset_inj {width bands row col band row' col' band' : Nat} (hcol : col < width)
    (hband : band < bands) (hcol' : col' < width) (hband' : band' < bands) :
    offset width bands row col band = offset width bands row' col' band' ↔
      row = row' ∧ col = col' ∧ band = band' := by
  constructor
  · intro hoffset
    have hplace := congrArg (SamplePlace.ofOffset width bands) hoffset
    rw [SamplePlace.ofOffset_offset width bands hcol hband,
      SamplePlace.ofOffset_offset width bands hcol' hband'] at hplace
    cases hplace
    exact ⟨rfl, rfl, rfl⟩
  · rintro ⟨rfl, rfl, rfl⟩
    rfl

theorem Samples.isSome_get?_iff (s : Samples) (row col band : Nat) :
    (s.get? row col band).isSome ↔ row < s.height ∧ col < s.width ∧ band < s.bands := by
  unfold get?
  split
  case isTrue hin => exact iff_of_true rfl hin
  case isFalse hout => exact iff_of_false Bool.false_ne_true hout

namespace Tile

variable {tile tile' : Tile} {value : Colour} {col row band col' row' : Nat}

theorem isSome_get?_iff (tile : Tile) (col row band : Nat) :
    (tile.get? col row band).isSome ↔ row < tile.height ∧ col < tile.width ∧ band < tileBands :=
  tile.samples.isSome_get?_iff row col band

theorem get?_eq_none (h : ¬ (row < tile.height ∧ col < tile.width ∧ band < tileBands)) :
    tile.get? col row band = none :=
  dif_neg h

theorem get?_eq_getElem? (hcol : col < tile.width) (hrow : row < tile.height)
    (hband : band < tileBands) :
    tile.get? col row band =
      tile.bytes.data[Samples.offset tile.width tileBands row col band]? := by
  rw [← Bytes.at?_eq_getElem?]
  exact tile.samples.get?_eq_at? hrow hcol hband

/-- A tile that is another one but for one pixel, which has a given colour. -/
structure Replaces (tile : Tile) (col row : Nat) (value : Colour) (tile' : Tile) : Prop where
  height : tile'.height = tile.height
  width : tile'.width = tile.width
  pixel : ∀ band, band < tileBands → tile'.get? col row band = some (value.band band)
  others : ∀ col' row' band, ¬ (col' = col ∧ row' = row) →
    tile'.get? col' row' band = tile.get? col' row' band

section

variable {data : Array UInt8} {first : Nat} {a b c : UInt8}

theorem getElem?_setThree (hlast : first + 2 < data.size) (value : Colour) {band : Nat}
    (hband : band < tileBands) :
    (((data.set! first value.red).set! (first + 1) value.green).set! (first + 2)
      value.blue)[first + band]? = some (value.band band) := by
  simp only [Array.set!_eq_setIfInBounds, Array.getElem?_setIfInBounds, Array.size_setIfInBounds]
  match band, hband with
  | 0, _ =>
      rw [if_neg (by omega), if_neg (by omega), if_pos (by omega), if_pos (by omega)]
      rfl
  | 1, _ =>
      rw [if_neg (by omega), if_pos rfl, if_pos (by omega)]
      rfl
  | 2, _ =>
      rw [if_pos rfl, if_pos hlast]
      rfl

theorem getElem?_setThree_of_ne (value : Colour) {i : Nat}
    (hne : ∀ band, band < tileBands → i ≠ first + band) :
    (((data.set! first value.red).set! (first + 1) value.green).set! (first + 2) value.blue)[i]? =
      data[i]? := by
  have hfirst : ¬ first = i := fun h => hne 0 (by decide) h.symm
  have hsecond : ¬ first + 1 = i := fun h => hne 1 (by decide) h.symm
  have hthird : ¬ first + 2 = i := fun h => hne 2 (by decide) h.symm
  simp only [Array.set!_eq_setIfInBounds, Array.getElem?_setIfInBounds]
  rw [if_neg hthird, if_neg hsecond, if_neg hfirst]

end

theorem exists_setPixel? (tile : Tile) (value : Colour) (hcol : col < tile.width)
    (hrow : row < tile.height) :
    ∃ tile', tile.setPixel? col row value = some tile' ∧ tile.Replaces col row value tile' := by
  obtain ⟨first, hfirst⟩ : ∃ first, Samples.offset tile.width tileBands row col 0 = first := ⟨_, rfl⟩
  have hoffset : ∀ band, Samples.offset tile.width tileBands row col band = first + band := by
    intro band
    rw [← hfirst]
    rfl
  have hlast : first + 2 < tile.bytes.data.size := by
    have hsize : tile.bytes.data.size = tile.height * tile.width * tileBands := tile.size_eq
    rw [hsize, ← hoffset]
    exact Samples.offset_lt hrow hcol (by decide)
  obtain ⟨tile', hset, hheight, hwidth, hdata⟩ : ∃ tile', tile.setPixel? col row value = some tile' ∧
      tile'.height = tile.height ∧ tile'.width = tile.width ∧ tile'.bytes.data =
        ((tile.bytes.data.set! first value.red).set! (first + 1) value.green).set! (first + 2)
          value.blue := by
    unfold setPixel?
    rw [if_pos ⟨hcol, hrow⟩, ← hfirst]
    exact ⟨_, rfl, rfl, rfl, rfl⟩
  have hsample : ∀ {col' row' band}, col' < tile.width → row' < tile.height → band < tileBands →
      tile'.get? col' row' band =
        tile'.bytes.data[Samples.offset tile.width tileBands row' col' band]? := by
    intro col' row' band hcol' hrow' hband
    rw [get?_eq_getElem? (by rw [hwidth]; exact hcol') (by rw [hheight]; exact hrow') hband, hwidth]
  refine ⟨tile', hset, hheight, hwidth, ?_, ?_⟩
  · intro band hband
    rw [hsample hcol hrow hband, hdata, hoffset]
    exact getElem?_setThree hlast value hband
  · intro col' row' band hother
    by_cases hin : row' < tile.height ∧ col' < tile.width ∧ band < tileBands
    · rcases hin with ⟨hrow', hcol', hband⟩
      rw [hsample hcol' hrow' hband, get?_eq_getElem? hcol' hrow' hband, hdata]
      refine getElem?_setThree_of_ne value ?_
      intro band' hband' hsame
      rw [← hoffset] at hsame
      rcases (Samples.offset_inj hcol' hband hcol hband').mp hsame with ⟨hrows, hcols, _⟩
      exact hother ⟨hcols, hrows⟩
    · rw [get?_eq_none hin, get?_eq_none (by rw [hheight, hwidth]; exact hin)]

def pixelPlaces (height width : Nat) : List (Nat × Nat) :=
  (List.range height).flatMap fun row => (List.range width).map fun col => (col, row)

def isBlackAt (tile : Tile) (place : Nat × Nat) : Bool :=
  decide (∀ band, band < tileBands → tile.get? place.1 place.2 band = some 0)

theorem mem_pixelPlaces {height width : Nat} :
    (col, row) ∈ pixelPlaces height width ↔ col < width ∧ row < height := by
  unfold pixelPlaces
  simp only [List.mem_flatMap, List.mem_map, List.mem_range, Prod.mk.injEq]
  constructor
  · rintro ⟨row', hrow, col', hcol, rfl, rfl⟩
    exact ⟨hcol, hrow⟩
  · rintro ⟨hcol, hrow⟩
    exact ⟨row, hrow, col, hcol, rfl, rfl⟩

theorem length_pixelPlaces (height width : Nat) :
    (pixelPlaces height width).length = height * width := by
  unfold pixelPlaces
  rw [List.length_flatMap]
  simp only [List.length_map, List.length_range, List.map_const', List.sum_replicate_nat]

theorem all_eq_flatMap_pixelPlaces (height width bands : Nat) :
    SamplePlace.all height width bands =
      (pixelPlaces height width).flatMap fun place =>
        (List.range bands).map fun band => ⟨place.2, place.1, band⟩ := by
  unfold SamplePlace.all pixelPlaces
  simp only [List.flatMap_assoc, List.flatMap_map]

theorem isBlack_eq_isBlackAt (hcol : col < tile.width) (hrow : row < tile.height) :
    tile.isBlack (row * tile.width + col) = tile.isBlackAt (col, row) := by
  unfold isBlack isBlackAt
  rw [Bool.eq_iff_iff, List.all_eq_true, decide_eq_true_iff]
  constructor
  · intro h band hband
    have hbyte := h band (List.mem_range.mpr hband)
    rw [beq_iff_eq, Bytes.at?_eq_getElem?] at hbyte
    rw [get?_eq_getElem? hcol hrow hband]
    exact hbyte
  · intro h band hband
    have hsample := h band (List.mem_range.mp hband)
    rw [get?_eq_getElem? hcol hrow (List.mem_range.mp hband)] at hsample
    rw [beq_iff_eq, Bytes.at?_eq_getElem?]
    exact hsample

theorem countBlack_eq (tile : Tile) :
    tile.countBlack = (pixelPlaces tile.height tile.width).countP tile.isBlackAt := by
  unfold countBlack pixelPlaces
  rw [SamplePlace.range_mul, List.countP_flatMap, List.countP_flatMap]
  congr 1
  refine List.map_congr_left fun row hrow => ?_
  show List.countP _ (List.map _ _) = List.countP _ (List.map _ _)
  rw [List.countP_map, List.countP_map]
  refine List.countP_congr fun col hcol => ?_
  show tile.isBlack (row * tile.width + col) = true ↔ tile.isBlackAt (col, row) = true
  rw [isBlack_eq_isBlackAt (List.mem_range.mp hcol) (List.mem_range.mp hrow)]

end Tile
end TileAudit
