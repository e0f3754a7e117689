import TileAudit.Proofs.Tile.Edits

/-!
# Normalised images

Tiles come from black squares, from samples and from images, and are then changed pixel by pixel.
All of them have three bands and no sample too many or too few. An image of three channels comes
back from its tile unchanged, and a tile from its image; a fourth channel leaves no trace; and
whatever has another number of bands or another depth is refused, whatever its size.
-/

namespace TileAudit

namespace Samples

/-- Samples of one shape that differ in the fourth band at most. -/
structure SharesColours (s s' : Samples) : Prop where
  height : s.height = s'.height
  width : s.width = s'.width
  samples : ∀ row col band, row < s.height → col < s.width → band < tileBands →
    s.get? row col band = s'.get? row col band

end Samples

namespace Image

/-- Images of eight bits and of one size that differ in the fourth channel at most. -/
structure SharesColours (image image' : Image) : Prop where
  height : image.height = image'.height
  width : image.width = image'.width
  samples : ∀ row col band, row < image.height → col < image.width → band < tileBands →
    image.sample? row col band = image'.sample? row col band

end Image

namespace Tile

/-!
## Where tiles come from

A tile comes about as a black square, from samples, from an image or by an edit, and has the shape
of what it was made from.
-/

/-- The ways in which a tile comes about, with the shape of what it is made from. -/
inductive Arises : Nat → Nat → Tile → Prop where
  | zeros {size : Nat} {tile : Tile} (h : zeros? size = some tile) : Arises size size tile
  | samples {s : Samples} {tile : Tile} (h : normalize s = .ok tile) :
      Arises s.height s.width tile
  | image {image : Image} {tile : Tile} (h : ofImage image = .ok tile) :
      Arises image.height image.width tile
  | edited {height width : Nat} {tile tile' : Tile} {e : PixelEdit}
      (h : Arises height width tile) (hset : tile.setPixel? e.col e.row e.colour = some tile') :
      Arises height width tile'

section

variable {s : Samples} {image : Image} {tile tile' : Tile} {value : Colour}
  {height width col row : Nat}

theorem shape_of_zeros? {size : Nat} (h : zeros? size = some tile) : tile.shape = (size, size) := by
  unfold zeros? at h
  split at h
  · cases h
    rfl
  · cases h

theorem shape_of_normalize (h : normalize s = .ok tile) : tile.shape = (s.height, s.width) := by
  unfold normalize at h
  split at h
  · cases h
    rfl
  · split at h
    · cases h
      rfl
    · cases h

theorem shape_of_ofImage (h : ofImage image = .ok tile) :
    tile.shape = (image.height, image.width) := by
  by_cases hcolour : image.IsColour8
  · rcases exists_ofImage hcolour with ⟨made, hmade, hshows⟩
    rw [hmade] at h
    cases h
    exact Prod.ext hshows.height hshows.width
  · rw [ofImage_eq_error hcolour] at h
    cases h

theorem shape_of_setPixel? (h : tile.setPixel? col row value = some tile') :
    tile'.shape = tile.shape := by
  unfold setPixel? at h
  split at h
  · cases h
    rfl
  · cases h

theorem Arises.shape (h : Arises height width tile) : tile.shape = (height, width) := by
  induction h with
  | zeros h => exact shape_of_zeros? h
  | samples h => exact shape_of_normalize h
  | image h => exact shape_of_ofImage h
  | edited _ hset ih => exact (shape_of_setPixel? hset).trans ih

theorem Arises.filled (h : Arises height width tile) :
    tile.bytes.size = height * width * 3 ∧
      ∀ col row band, (tile.get? col row band).isSome ↔ row < height ∧ col < width ∧ band < 3 := by
  have hheight : tile.height = height := congrArg Prod.fst h.shape
  have hwidth : tile.width = width := congrArg Prod.snd h.shape
  constructor
  · rw [tile.size_eq, hheight, hwidth]
    rfl
  · intro col row band
    rw [isSome_get?_iff, hheight, hwidth]
    exact Iff.rfl

end

theorem toImage_eq {tile : Tile} (hheight : tile.height < sideLimit)
    (hwidth : tile.width < sideLimit) :
    tile.toImage =
      ⟨.rgb8, tile.height, tile.width, tile.bytes, by rw [tile.size_eq]; rfl⟩ := by
  have hrows : tile.height % sideLimit = tile.height := Nat.mod_eq_of_lt hheight
  have hcols : tile.width % sideLimit = tile.width := Nat.mod_eq_of_lt hwidth
  have hbytes : tile.toImage.bytes = tile.bytes := by
    show tile.bytes.extract 0 _ = _
    rw [hrows, hcols, ← tile.size_eq, ByteArray.extract_zero_size]
  unfold toImage at hbytes ⊢
  rw [Image.mk.injEq]
  exact ⟨rfl, hrows, hcols, hbytes⟩

theorem ofImage_toImage {tile : Tile} (hheight : tile.height < sideLimit)
    (hwidth : tile.width < sideLimit) : ofImage tile.toImage = .ok tile := by
  rw [toImage_eq hheight hwidth]
  rfl

theorem exists_toImage_eq {image : Image} (hformat : image.format = .rgb8)
    (hheight : image.height < sideLimit) (hwidth : image.width < sideLimit) :
    ∃ tile, ofImage image = .ok tile ∧ tile.toImage = image := by
  rcases image with ⟨format, height, width, bytes, hsize⟩
  cases hformat
  exact ⟨⟨height, width, bytes, hsize⟩, rfl, toImage_eq hheight hwidth⟩

section

variable {s s' : Samples} {image image' : Image}

theorem exists_normalize (h : s.bands = 3 ∨ s.bands = 4) :
    ∃ tile, normalize s = .ok tile ∧ tile.shape = (s.height, s.width) ∧
      ∀ row col band, row < s.height → col < s.width → band < tileBands →
        tile.get? col row band = s.get? row col band := by
  rcases h with hthree | hfour
  · refine ⟨ofSamples s hthree, dif_pos hthree, rfl, ?_⟩
    · intro row col band hrow hcol hband
      have hsource : band < s.bands := by
        rw [hthree]
        exact hband
      rw [Samples.get?_eq_at? s hrow hcol hsource, hthree]
      exact (ofSamples s hthree).samples.get?_eq_at? hrow hcol hband
  · refine ⟨dropFourth s, ?_, rfl, ?_⟩
    · have hne : s.bands ≠ tileBands := by
        rw [hfour]
        decide
      unfold normalize
      rw [dif_neg hne, if_pos hfour]
    · intro row col band hrow hcol hband
      have hsource : band < s.bands := by
        rw [hfour]
        exact Nat.lt_trans hband (by decide)
      rw [get?_dropFourth s hfour hrow hcol hband, Samples.get?_eq_at? s hrow hcol hsource]

theorem normalize_eq_error (hthree : s.bands ≠ 3) (hfour : s.bands ≠ 4) :
    normalize s = .error (.unexpectedBandCount s.bands) := by
  have hne : ¬ s.bands = tileBands := hthree
  unfold normalize
  rw [dif_neg hne, if_neg hfour]

theorem normalize_eq_of_sharesColours (h : s.bands = 4) (h' : s'.bands = 4)
    (hshares : s.SharesColours s') : normalize s = normalize s' := by
  rcases exists_normalize (Or.inr h) with ⟨tile, htile, hshape, hsamples⟩
  rcases exists_normalize (Or.inr h') with ⟨tile', htile', hshape', hsamples'⟩
  have hsame : tile.shape = tile'.shape := by
    rw [hshape, hshape', hshares.height, hshares.width]
  have hagrees : tile.Agrees tile' := by
    refine ⟨congrArg Prod.fst hsame, congrArg Prod.snd hsame, ?_⟩
    intro row col band hrow hcol hband
    rw [show tile.height = s.height from congrArg Prod.fst hshape] at hrow
    rw [show tile.width = s.width from congrArg Prod.snd hshape] at hcol
    rw [hsamples row col band hrow hcol hband, hshares.samples row col band hrow hcol hband]
    rw [hshares.height] at hrow
    rw [hshares.width] at hcol
    exact (hsamples' row col band hrow hcol hband).symm
  rw [htile, htile', hagrees.eq]

theorem ofImage_eq_of_sharesColours (h : image.IsColour8) (h' : image'.IsColour8)
    (hshares : image.SharesColours image') : ofImage image = ofImage image' := by
  rcases exists_ofImage h with ⟨tile, htile, hmade⟩
  rcases exists_ofImage h' with ⟨tile', htile', hmade'⟩
  have hagrees : tile.Agrees tile' := by
    refine (agrees_iff_of_isMadeFrom hmade').mpr ⟨?_, ?_, ?_⟩
    · rw [hmade.height, hshares.height]
    · rw [hmade.width, hshares.width]
    · intro row col band hrow hcol hband
      rw [hmade.height] at hrow
      rw [hmade.width] at hcol
      rw [hmade.samples row col band hrow hcol hband, hshares.samples row col band hrow hcol hband]
  rw [htile, htile', hagrees.eq]

end

/-- Every tile is filled, and its shape is that of its source. An image of three channels of eight
bits and its tile are made of each other; a fourth band or channel is dropped, whatever it holds;
every other number of bands, and every other image, is refused with the fault that its bands and its
depth call for. -/
theorem tiles_are_normalised :
    (∀ height width tile, Arises height width tile →
      tile.shape = (height, width) ∧ tile.bytes.size = height * width * 3 ∧
        ∀ col row band, (tile.get? col row band).isSome ↔
          row < height ∧ col < width ∧ band < 3) ∧
    (∀ image : Image, image.format = .rgb8 → image.height < Nat.pow 2 32 →
      image.width < Nat.pow 2 32 →
      ∃ tile, ofImage image = .ok tile ∧ tile.toImage = image) ∧
    (∀ tile : Tile, tile.height < Nat.pow 2 32 → tile.width < Nat.pow 2 32 →
      tile.toImage.format = .rgb8 ∧ ofImage tile.toImage = .ok tile) ∧
    (∀ image : Image, image.IsColour8 → ∃ tile, ofImage image = .ok tile ∧ tile.IsMadeFrom image) ∧
    (∀ image image' : Image, image.IsColour8 → image'.IsColour8 → image.SharesColours image' →
      ofImage image = ofImage image') ∧
    (∀ s : Samples, s.bands = 3 ∨ s.bands = 4 →
      ∃ tile, normalize s = .ok tile ∧ tile.shape = (s.height, s.width) ∧
        ∀ row col band, row < s.height → col < s.width → band < 3 →
          tile.get? col row band = s.get? row col band) ∧
    (∀ s s' : Samples, s.bands = 4 → s'.bands = 4 → s.SharesColours s' →
      normalize s = normalize s') ∧
    (∀ s : Samples, s.bands ≠ 3 → s.bands ≠ 4 →
      normalize s = .error (.unexpectedBandCount s.bands)) ∧
    ∀ image : Image, ¬ image.IsColour8 → ofImage image = .error image.refusal := by
  refine ⟨?_, ?_, ?_, ?_, ?_, ?_, ?_, ?_, ?_⟩
  · intro height width tile h
    exact ⟨h.shape, h.filled⟩
  · intro image hformat hheight hwidth
    exact exists_toImage_eq hformat hheight hwidth
  · intro tile hheight hwidth
    exact ⟨rfl, ofImage_toImage hheight hwidth⟩
  · intro image h
    exact exists_ofImage h
  · intro image image' h h' hshares
    exact ofImage_eq_of_sharesColours h h' hshares
  · intro s h
    exact exists_normalize h
  · intro s s' h h' hshares
    exact normalize_eq_of_sharesColours h h' hshares
  · intro s hthree hfour
    exact normalize_eq_error hthree hfour
  · intro image h
    exact ofImage_eq_error h

def twoPixels : Image :=
  ⟨.rgb8, 2, 1, ⟨#[1, 2, 3, 4, 5, 6]⟩, rfl⟩

def translucentPixels (alpha : UInt8) : Image :=
  ⟨⟨.rgba, .eight⟩, 2, 1, ⟨#[1, 2, 3, alpha, 4, 5, 6, alpha]⟩, rfl⟩

def fiveBands : Samples :=
  ⟨1, 1, 5, ⟨#[1, 2, 3, 4, 5]⟩, rfl⟩

theorem translucentPixels_sharesColours :
    (translucentPixels 0).SharesColours (translucentPixels 255) := by
  refine ⟨rfl, rfl, ?_⟩
  have hsamples : ∀ row < 2, ∀ col < 1, ∀ band < 3,
      (translucentPixels 0).sample? row col band = (translucentPixels 255).sample? row col band := by
    decide
  intro row col band hrow hcol hband
  exact hsamples row hrow col hcol band hband

theorem tiles_are_normalised_twoPixels :
    ∃ tile, Arises 2 1 tile ∧ tile.bytes.size = 6 ∧ ofImage twoPixels = .ok tile ∧
      tile.toImage = twoPixels ∧ ofImage tile.toImage = .ok tile ∧
      ofImage (translucentPixels 0) = ofImage (translucentPixels 255) ∧
      normalize fiveBands = .error (.unexpectedBandCount 5) := by
  rcases tiles_are_normalised with
    ⟨hfilled, himage, htile, _, halpha, _, _, hbands, _⟩
  rcases himage twoPixels rfl (by decide) (by decide) with ⟨tile, hmade, hback⟩
  have harises : Arises 2 1 tile := Arises.image hmade
  have hshape : tile.shape = (2, 1) := (hfilled 2 1 tile harises).1
  have hheight : tile.height < Nat.pow 2 32 := by
    rw [show tile.height = 2 from congrArg Prod.fst hshape]
    decide
  have hwidth : tile.width < Nat.pow 2 32 := by
    rw [show tile.width = 1 from congrArg Prod.snd hshape]
    decide
  refine ⟨tile, harises, (hfilled 2 1 tile harises).2.1, hmade, hback,
    (htile tile hheight hwidth).2, ?_, ?_⟩
  · exact halpha _ _ ⟨rfl, Or.inr rfl⟩ ⟨rfl, Or.inr rfl⟩ translucentPixels_sharesColours
  · exact hbands fiveBands (by decide) (by decide)

end Tile
end TileAudit
