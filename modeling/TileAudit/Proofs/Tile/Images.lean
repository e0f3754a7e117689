import TileAudit.Comparison
import TileAudit.Proofs.Sampling.Pixels
import TileAudit.Tile.Normalize

/-!
# Images as tiles, and tiles compared

An image becomes a tile when it has three or four channels of eight bits, and the tile shows
the first three of them. Two tiles match when they have one shape and show the same.
-/

namespace TileAudit

namespace Samples

theorem get?_eq_at? (s : Samples) {row col band : Nat}
    (hrow : row < s.height) (hcol : col < s.width) (hband : band < s.bands) :
    s.get? row col band = Bytes.at? s.bytes (offset s.width s.bands row col band) := by
  have hplace : offset s.width s.bands row col band < s.bytes.size := by
    rw [s.size_eq]
    exact offset_lt hrow hcol hband
  unfold get? Bytes.at?
  rw [dif_pos ⟨hrow, hcol, hband⟩, dif_pos hplace]
  rfl

theorem offset_of_place (width bands i : Nat) :
    offset width bands (i / bands / width) (i / bands % width) (i % bands) = i := by
  unfold offset
  rw [Nat.div_add_mod', Nat.div_add_mod']

theorem index_of_place {height width bands i : Nat} (h : i < height * width * bands) :
    i / bands / width < height ∧ i / bands % width < width ∧ i % bands < bands := by
  have hbands : 0 < bands := by
    apply Nat.pos_of_ne_zero
    rintro rfl
    exact absurd h (Nat.not_lt_zero i)
  have hpixel : i / bands < height * width := (Nat.div_lt_iff_lt_mul hbands).mpr h
  have hwidth : 0 < width := by
    apply Nat.pos_of_ne_zero
    rintro rfl
    exact absurd hpixel (Nat.not_lt_zero _)
  exact ⟨(Nat.div_lt_iff_lt_mul hwidth).mpr hpixel, Nat.mod_lt _ hwidth, Nat.mod_lt _ hbands⟩

theorem bytes_eq_of_get? {s s' : Samples} (hheight : s.height = s'.height)
    (hwidth : s.width = s'.width) (hbands : s.bands = s'.bands)
    (h : ∀ row col band, row < s.height → col < s.width → band < s.bands →
      s.get? row col band = s'.get? row col band) : s.bytes = s'.bytes := by
  have hsize : s.bytes.size = s'.bytes.size := by
    rw [s.size_eq, s'.size_eq, hheight, hwidth, hbands]
  have hplaces : ∀ i : Nat, i < s.bytes.size → Bytes.at? s.bytes i = Bytes.at? s'.bytes i := by
    intro i hi
    rw [s.size_eq] at hi
    rcases index_of_place hi with ⟨hrow, hcol, hband⟩
    have hindex := h _ _ _ hrow hcol hband
    rw [get?_eq_at? s hrow hcol hband,
      get?_eq_at? s' (hheight ▸ hrow) (hwidth ▸ hcol) (hbands ▸ hband), ← hwidth, ← hbands,
      offset_of_place] at hindex
    exact hindex
  apply ByteArray.ext
  apply Array.ext hsize
  intro i hi hi'
  have hplace := hplaces i hi
  rw [Bytes.at?_eq_getElem?, Bytes.at?_eq_getElem?, Array.getElem?_eq_getElem hi,
    Array.getElem?_eq_getElem hi'] at hplace
  exact Option.some.inj hplace

end Samples

namespace Comparison

structure IsPlainFailure (comparison : Comparison) : Prop where
  matched : comparison.matched = false
  mismatches : comparison.mismatches = []
  mismatchCount : comparison.mismatchCount = 0
  difference : comparison.difference? = none

theorem isPlainFailure_absent : IsPlainFailure absent :=
  ⟨rfl, rfl, rfl, rfl⟩

theorem isPlainFailure_shapesDiffer : IsPlainFailure shapesDiffer :=
  ⟨rfl, rfl, rfl, rfl⟩

end Comparison

namespace Tile

/-- Tiles that show the same: of one shape, and with equal samples. -/
structure Agrees (tile tile' : Tile) : Prop where
  height : tile.height = tile'.height
  width : tile.width = tile'.width
  samples : ∀ row col band, row < tile.height → col < tile.width → band < tileBands →
    tile.get? col row band = tile'.get? col row band

theorem Agrees.bytes_eq {tile tile' : Tile} (h : Agrees tile tile') : tile.bytes = tile'.bytes :=
  @Samples.bytes_eq_of_get? tile.samples tile'.samples h.height h.width rfl h.samples

theorem agrees_of_eq {tile tile' : Tile} (hshape : tile.shape = tile'.shape)
    (hbytes : tile.bytes = tile'.bytes) : Agrees tile tile' := by
  have hheight : tile.height = tile'.height := congrArg Prod.fst hshape
  have hwidth : tile.width = tile'.width := congrArg Prod.snd hshape
  rcases tile with ⟨height, width, bytes, hsize⟩
  rcases tile' with ⟨height', width', bytes', hsize'⟩
  cases hheight
  cases hwidth
  cases hbytes
  exact ⟨rfl, rfl, fun _ _ _ _ _ _ => rfl⟩

section

variable {expected actual : Tile}

theorem compare_shapesDiffer (h : expected.shape ≠ actual.shape) :
    expected.compare (some actual) = .shapesDiffer := by
  simp only [compare, if_neg h]

theorem compare_equal (hshape : expected.shape = actual.shape)
    (hbytes : expected.bytes = actual.bytes) : expected.compare (some actual) = .equal := by
  simp only [compare, hshape, hbytes, if_true]

theorem matched_compare_of_bytes_ne (hbytes : expected.bytes ≠ actual.bytes) :
    (expected.compare (some actual)).matched = false := by
  have hdata : expected.bytes.data ≠ actual.bytes.data := fun h => hbytes (ByteArray.ext h)
  simp only [compare, if_neg hdata]
  by_cases hshape : expected.shape = actual.shape
  · rw [if_pos hshape]
    rfl
  · rw [if_neg hshape]
    rfl

theorem compare_matched_iff :
    (expected.compare (some actual)).matched = true ↔ Agrees expected actual := by
  constructor
  · intro hmatched
    by_cases hshape : expected.shape = actual.shape
    · by_cases hbytes : expected.bytes = actual.bytes
      · exact agrees_of_eq hshape hbytes
      · rw [matched_compare_of_bytes_ne hbytes] at hmatched
        cases hmatched
    · rw [compare_shapesDiffer hshape] at hmatched
      cases hmatched
  · intro hagrees
    rw [compare_equal (Prod.ext hagrees.height hagrees.width) hagrees.bytes_eq]
    rfl

end

end Tile

namespace Image

def IsColour8 (image : Image) : Prop :=
  image.format.depth = .eight ∧
    (image.format.channels = .rgb ∨ image.format.channels = .rgba)

/-- The fault of an image that is no tile: its number of channels if that is wrong, its depth
otherwise. -/
def refusal (image : Image) : Fault :=
  if image.format.channels.count = 3 ∨ image.format.channels.count = 4 then
    .invalidRaster (.wrongDepth image.format.name)
  else
    .unexpectedBandCount image.format.channels.count

def sample? (image : Image) (row col band : Nat) : Option UInt8 :=
  Bytes.at? image.bytes
    (Samples.offset image.width image.format.channels.count row col band)

end Image

namespace Tile

/-- A tile that is made from an image: of the image's shape, with its first three channels. -/
structure IsMadeFrom (tile : Tile) (image : Image) : Prop where
  height : tile.height = image.height
  width : tile.width = image.width
  samples : ∀ row col band, row < image.height → col < image.width → band < tileBands →
    tile.get? col row band = image.sample? row col band

theorem get?_dropFourth (s : Samples) (hbands : s.bands = 4) {row col band : Nat}
    (hrow : row < s.height) (hcol : col < s.width) (hband : band < tileBands) :
    (dropFourth s).get? col row band =
      Bytes.at? s.bytes (Samples.offset s.width s.bands row col band) := by
  have hfour : band < s.bands := by
    rw [hbands]
    exact Nat.lt_trans hband (by decide)
  have hsample : (s.get? row col band).isSome = true := by
    unfold Samples.get?
    rw [dif_pos ⟨hrow, hcol, hfour⟩]
    rfl
  rcases Option.isSome_iff_exists.mp hsample with ⟨value, hvalue⟩
  rw [← Samples.get?_eq_at? s hrow hcol hfour, hvalue]
  show (Samples.ofFn s.height s.width tileBands fun row col band =>
    (s.get? row col band).getD 0).get? row col band = some value
  rw [Samples.get?_ofFn _ hrow hcol hband, hvalue]
  rfl

theorem agrees_iff_of_isMadeFrom {expected actual : Tile} {image : Image}
    (h : IsMadeFrom actual image) :
    Agrees expected actual ↔
      image.height = expected.height ∧ image.width = expected.width ∧
        ∀ row col band, row < expected.height → col < expected.width → band < tileBands →
          image.sample? row col band = expected.get? col row band := by
  constructor
  · intro hagrees
    have hheight : image.height = expected.height := h.height.symm.trans hagrees.height.symm
    have hwidth : image.width = expected.width := h.width.symm.trans hagrees.width.symm
    refine ⟨hheight, hwidth, ?_⟩
    intro row col band hrow hcol hband
    rw [hagrees.samples row col band hrow hcol hband]
    exact (h.samples row col band (hheight ▸ hrow) (hwidth ▸ hcol) hband).symm
  · rintro ⟨hheight, hwidth, hsamples⟩
    refine ⟨hheight.symm.trans h.height.symm, hwidth.symm.trans h.width.symm, ?_⟩
    intro row col band hrow hcol hband
    rw [h.samples row col band (hheight ▸ hrow) (hwidth ▸ hcol) hband]
    exact (hsamples row col band hrow hcol hband).symm

theorem exists_ofImage {image : Image} (h : image.IsColour8) :
    ∃ tile, ofImage image = .ok tile ∧ IsMadeFrom tile image := by
  rcases image with ⟨⟨channels, depth⟩, height, width, bytes, hsize⟩
  rcases h with ⟨hdepth, hchannels⟩
  change depth = .eight at hdepth
  change channels = .rgb ∨ channels = .rgba at hchannels
  cases hdepth
  rcases hchannels with rfl | rfl
  · refine ⟨⟨height, width, bytes, hsize⟩, rfl, rfl, rfl, ?_⟩
    intro row col band hrow hcol hband
    exact Samples.get?_eq_at? ⟨height, width, tileBands, bytes, hsize⟩ hrow hcol hband
  · refine ⟨dropFourth ⟨height, width, 4, bytes, hsize⟩, rfl, rfl, rfl, ?_⟩
    intro row col band hrow hcol hband
    exact get?_dropFourth ⟨height, width, 4, bytes, hsize⟩ rfl hrow hcol hband

theorem ofImage_eq_error {image : Image} (h : ¬ image.IsColour8) :
    ofImage image = .error image.refusal := by
  rcases image with ⟨⟨channels, depth⟩, height, width, bytes, hsize⟩
  cases depth with
  | eight =>
      cases channels with
      | grey => rfl
      | greyAlpha => rfl
      | rgb => exact absurd ⟨rfl, Or.inl rfl⟩ h
      | rgba => exact absurd ⟨rfl, Or.inr rfl⟩ h
  | sixteen => cases channels <;> rfl
  | float => cases channels <;> rfl

theorem exists_ofImage_error {image : Image} (h : ¬ image.IsColour8) :
    ∃ fault, ofImage image = .error fault :=
  ⟨image.refusal, ofImage_eq_error h⟩

end Tile
end TileAudit
