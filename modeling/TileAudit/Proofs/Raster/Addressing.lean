import TileAudit.Proofs.Sampling.Inside
import TileAudit.Proofs.Tile.Pixels

/-!
# Samples of a raster by their place in a buffer

A raster that is made of a buffer reads each sample from the buffer, row by row and band by band. An
index that leaves the shape along one axis reads nothing, whatever stands at the place it would have
in the buffer: that place belongs to another index.
-/

namespace TileAudit

namespace Samples

theorem exists_eq_of_ofBytes {height width bands : Nat} {buffer : ByteArray} {s : Samples}
    (h : ofBytes height width bands buffer = .ok s) :
    ∃ hsize, s = ⟨height, width, bands, buffer, hsize⟩ := by
  unfold ofBytes at h
  split at h
  · cases h
  · split at h
    · cases h
    · split at h
      · next hsize =>
          cases h
          exact ⟨hsize, rfl⟩
      · cases h

theorem get?_eq_some {s : Samples} {row col band : Nat} (hrow : row < s.height)
    (hcol : col < s.width) (hband : band < s.bands) :
    ∃ hplace : (row * s.width + col) * s.bands + band < s.bytes.size,
      s.get? row col band =
        some (s.bytes.get ((row * s.width + col) * s.bands + band) hplace) := by
  have hplace := offset_lt hrow hcol hband
  rw [← s.size_eq] at hplace
  exact ⟨hplace, dif_pos ⟨hrow, hcol, hband⟩⟩

end Samples

namespace Raster

/-- A raster made of a buffer. A sample within the shape is the byte at its place in the buffer and
one outside is nothing, a pixel within the shape lists its samples and one outside is nothing, and
each byte of the buffer is read by exactly one index within the shape. -/
theorem sample?_reads_buffer {height width bands : Nat} {buffer : ByteArray} {samples : Samples}
    {transform : GeoTransform} {epsg : UInt16} {raster : Raster}
    (hsamples : Samples.ofBytes height width bands buffer = .ok samples)
    (hraster : ofSamples samples transform epsg = .ok raster) :
    (raster.height = height ∧ raster.width = width ∧ raster.bands = bands) ∧
      (∀ band col row, col < width → row < height → band < bands →
        ∃ hplace : (row * width + col) * bands + band < buffer.size,
          raster.sample? band col row =
            some (buffer.get ((row * width + col) * bands + band) hplace)) ∧
      (∀ band col row, ¬ (col < width ∧ row < height ∧ band < bands) →
        raster.sample? band col row = none) ∧
      (∀ col row, col < width → row < height →
        ∃ values, raster.pixel? col row = some values ∧ values.length = bands ∧
          ∀ band, values[band]? = raster.sample? band col row) ∧
      (∀ col row, ¬ (col < width ∧ row < height) → raster.pixel? col row = none) ∧
      (∀ band col row band' col' row', col < width → band < bands → col' < width → band' < bands →
        (row * width + col) * bands + band = (row' * width + col') * bands + band' →
          band = band' ∧ col = col' ∧ row = row') ∧
      ∀ place < buffer.size, ∃ band col row, col < width ∧ row < height ∧ band < bands ∧
        (row * width + col) * bands + band = place := by
  rcases Samples.exists_eq_of_ofBytes hsamples with ⟨hsize, hshape⟩
  have hread := (parts_of_ofSamples hraster).1
  rw [hshape] at hread
  have hwidth : raster.width = width := congrArg Samples.width hread
  have hheight : raster.height = height := congrArg Samples.height hread
  have hbands : raster.bands = bands := congrArg Samples.bands hread
  refine ⟨⟨hheight, hwidth, hbands⟩, ?_, ?_, ?_, ?_, ?_, ?_⟩
  · intro band col row hcol hrow hband
    unfold sample?
    rw [hread]
    exact Samples.get?_eq_some (s := ⟨height, width, bands, buffer, hsize⟩) hrow hcol hband
  · intro band col row hout
    unfold sample?
    rw [hread]
    exact dif_neg fun hin => hout ⟨hin.2.1, hin.1, hin.2.2⟩
  · intro col row hcol hrow
    rw [← hwidth] at hcol
    rw [← hheight] at hrow
    rw [← hbands]
    exact exists_pixel? hcol hrow
  · intro col row hout
    rw [← hwidth, ← hheight] at hout
    exact if_neg hout
  · intro band col row band' col' row' hcol hband hcol' hband' hplace
    rcases (Samples.offset_inj hcol hband hcol' hband').mp hplace with ⟨hrows, hcols, hbands⟩
    exact ⟨hbands, hcols, hrows⟩
  · intro place hplace
    rw [hsize] at hplace
    rcases Samples.index_of_place hplace with ⟨hrow, hcol, hband⟩
    exact ⟨_, _, _, hcol, hrow, hband, Samples.offset_of_place width bands place⟩

/-- Two rows of three pixels. The digits of each sample are its row, its column and its band. -/
def numberedSamples : Samples :=
  ⟨2, 3, 3, ⟨#[0, 1, 2, 10, 11, 12, 20, 21, 22, 100, 101, 102, 110, 111, 112, 120, 121, 122]⟩, rfl⟩

theorem sample?_reads_buffer_numbered :
    ∃ transform raster, Samples.ofBytes 2 3 3 numberedSamples.bytes = .ok numberedSamples ∧
      ofSamples numberedSamples transform 3857 = .ok raster ∧
      raster.sample? 2 1 1 = some 112 ∧ raster.sample? 0 0 1 = some 100 ∧
      (0 * 3 + 3) * 3 + 0 = (1 * 3 + 0) * 3 + 0 ∧ raster.sample? 0 3 0 = none := by
  rcases GeoTransform.exists_ofAffine (a := ⟨100.0, 10.0, 0.0, 50.0, 0.0, -10.0⟩)
    (by decide +kernel) (by decide +kernel) with ⟨transform, _, _⟩
  have hsamples : Samples.ofBytes 2 3 3 numberedSamples.bytes = .ok numberedSamples :=
    numberedSamples.ofBytes_bytes (by decide)
  have hfilled : 0 < numberedSamples.height ∧ 0 < numberedSamples.width ∧
      0 < numberedSamples.bands := by decide
  have hraster := ofSamples_of_filled hfilled transform 3857
  rcases sample?_reads_buffer hsamples hraster with ⟨_, hinside, houtside, _⟩
  rcases hinside 2 1 1 (by decide) (by decide) (by decide) with ⟨_, hlast⟩
  rcases hinside 0 0 1 (by decide) (by decide) (by decide) with ⟨_, hnext⟩
  exact ⟨transform, _, hsamples, hraster, hlast, hnext, rfl, houtside 0 3 0 (by decide)⟩

end Raster
end TileAudit
