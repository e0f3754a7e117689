import TileAudit.GeoTiff.Reader
import TileAudit.GeoTiff.Writer
import TileAudit.Proofs.GeoTiff.Keys
import TileAudit.Proofs.Geometry.GeoTransform
import TileAudit.Proofs.Sampling.Pixels

/-!
# Decoding encoded rasters

The library for raster files is relied on for one thing: it finds in a file what it wrote. Then
whatever is encoded decodes to the raster that was described: the georeference comes back through
the sign of the pixel height and the tiepoint, the code of the reference system through the key that
its range chooses, and the samples as they are.
-/

namespace TileAudit
namespace GeoTiff

structure Picture.IsWhole (picture : Picture) : Prop where
  width : 0 < picture.width ∧ picture.width ≤ Numeral.limit32
  height : 0 < picture.height ∧ picture.height ≤ Numeral.limit32
  samples : picture.samples.size = 3 * picture.width * picture.height

/-- A file in which the library finds a picture and its tags. -/
structure Opened.Shows (file : Opened) (picture : Picture) : Prop where
  width : file.width = picture.width
  height : file.height = picture.height
  colours : file.colours = .ok .rgb8
  scale : file.scale? = some picture.scale
  tiepoint : file.tiepoint? = some picture.tiepoint
  keys : file.keys? = some picture.keys
  pixels : file.pixels = .ok (.bytes picture.samples)

end GeoTiff

/-- A library that finds in a file the picture that it wrote, in whatever way the samples are
packed. -/
def TiffCodec.Restores [TiffCodec] : Prop :=
  ∀ (picture : GeoTiff.Picture) (src : ByteArray), picture.IsWhole →
    TiffCodec.encode picture = .ok src →
      ∃ file, TiffCodec.opened src = .ok file ∧ file.Shows picture

namespace GeoTiff

/-!
## Descriptions that are encoded

What passes the checks has a georeference that comes back from its tags, and a picture that is read
as its samples in their shape.
-/

section

variable {spec : SyntheticRaster} {transform : GeoTransform} {samples : ByteArray}

theorem parts_of_check (h : check spec = .ok transform) :
    spec.transform = .ok transform ∧ (0 < spec.width ∧ spec.width < 4294967296) ∧
      0 < spec.height ∧ spec.height < 4294967296 := by
  unfold check at h
  cases htransform : spec.transform with
  | error fault =>
      rw [htransform] at h
      cases h
  | ok found =>
      rw [htransform] at h
      change (if spec.width > maxDimension then Except.error (RasterFault.tooWide spec.width)
        else if spec.height > maxDimension then .error (.tooHigh spec.height)
        else .ok found) = .ok transform at h
      rcases SyntheticRaster.filled_of_transform htransform with ⟨hheight, hwidth, _⟩
      change 0 < spec.height at hheight
      change 0 < spec.width at hwidth
      by_cases hwide : spec.width > maxDimension
      · rw [if_pos hwide] at h
        cases h
      · rw [if_neg hwide] at h
        by_cases hhigh : spec.height > maxDimension
        · rw [if_pos hhigh] at h
          cases h
        · rw [if_neg hhigh] at h
          cases h
          unfold maxDimension Numeral.limit32 at hwide hhigh
          exact ⟨rfl, by omega, by omega, by omega⟩

theorem isWhole_pictureOf (hcheck : check spec = .ok transform) :
    (pictureOf spec transform spec.samples.bytes).IsWhole := by
  rcases parts_of_check hcheck with ⟨_, hwidth, hheight⟩
  have hsize : spec.samples.bytes.size = spec.height * spec.width * 3 := spec.samples.size_eq
  refine ⟨⟨hwidth.1, Nat.le_of_lt_succ hwidth.2⟩, ⟨hheight.1, Nat.le_of_lt_succ hheight.2⟩, ?_⟩
  show spec.samples.bytes.size = 3 * spec.width * spec.height
  rw [hsize, Nat.mul_comm, Nat.mul_comm spec.height, Nat.mul_assoc]

theorem samplesOf_bytes (h : spec.IsAddressable) :
    samplesOf spec.height spec.width 3 (.bytes spec.samples.bytes) = .ok spec.samples := by
  have hsamples : Samples.ofBytes spec.height spec.width 3 spec.samples.bytes = .ok spec.samples :=
    spec.samples.ofBytes_bytes h
  have hbands : ¬ spec.samples.bands = 4 := (by decide : ¬ 3 = 4)
  have hthree : firstThree spec.samples = spec.samples := if_neg hbands
  show (do
    let samples ← Samples.ofBytes spec.height spec.width 3 spec.samples.bytes
    return firstThree samples) = _
  rw [hsamples]
  exact congrArg Except.ok hthree

theorem place_of_check (hcheck : check spec = .ok transform) (haddressable : spec.IsAddressable) :
    ∃ raster decoded, spec.toRaster = .ok raster ∧
      place spec.samples transform.pixelScale transform.tiepoint spec.epsg = .ok decoded ∧
      (decoded == raster) = true := by
  rcases parts_of_check hcheck with ⟨htransform, _⟩
  have hfilled := SyntheticRaster.filled_of_transform htransform
  have horigin := GeoTransform.isFinite_origin_of_northUp htransform
  rcases GeoTransform.ofTags_of_transform transform horigin.1 horigin.2 with
    ⟨decoded, htags, hsame⟩
  refine ⟨⟨spec.samples, transform, spec.epsg, hfilled⟩,
    ⟨spec.samples, decoded, spec.epsg, hfilled⟩,
    SyntheticRaster.toRaster_of_transform htransform haddressable, ?_, ?_⟩
  · unfold place
    rw [htags]
    exact Raster.ofSamples_of_filled hfilled decoded spec.epsg
  · have hbytes : (spec.samples.bytes == spec.samples.bytes) = true :=
      beq_self_eq_true spec.samples.bytes.data
    show (spec.samples.height == spec.samples.height && spec.samples.width == spec.samples.width &&
      spec.samples.bands == spec.samples.bands && spec.samples.bytes == spec.samples.bytes &&
      decoded == transform && spec.epsg == spec.epsg) = true
    simp only [beq_self_eq_true, hbytes, hsame, Bool.and_self]

end

section

variable [TiffCodec] {spec : SyntheticRaster} {transform : GeoTransform} {src : ByteArray}

theorem parts_of_encode (h : encode spec = .ok src) :
    ∃ transform samples, check spec = .ok transform ∧ spec.pixels? = some samples ∧
      TiffCodec.encode (pictureOf spec transform samples) = .ok src := by
  unfold encode at h
  cases hcheck : check spec with
  | error fault =>
      rw [hcheck] at h
      cases h
  | ok transform =>
      cases hpixels : spec.pixels? with
      | none =>
          rw [hcheck, hpixels] at h
          cases h
      | some samples =>
          rw [hcheck, hpixels] at h
          change Except.mapError Fault.tiffEncode
            (TiffCodec.encode (pictureOf spec transform samples)) = .ok src at h
          cases hencode : TiffCodec.encode (pictureOf spec transform samples) with
          | error reason =>
              rw [hencode] at h
              cases h
          | ok file =>
              rw [hencode] at h
              cases h
              exact ⟨transform, samples, rfl, rfl, hencode⟩

theorem decode_of_shows {file : Opened} {decoded : Raster}
    (hopened : TiffCodec.opened src = .ok file)
    (hshows : file.Shows (pictureOf spec transform spec.samples.bytes))
    (haddressable : spec.IsAddressable)
    (hplace : place spec.samples transform.pixelScale transform.tiepoint spec.epsg = .ok decoded) :
    decode src = .ok decoded := by
  have hscale : file.pixelScale = .ok transform.pixelScale := by
    unfold Opened.pixelScale
    rw [hshows.scale]
    rfl
  have htie : file.tiepoint = .ok transform.tiepoint := by
    unfold Opened.tiepoint
    rw [hshows.tiepoint]
    rfl
  have hepsg : file.epsg = spec.epsg := by
    unfold Opened.epsg
    rw [hshows.keys]
    show (GeoKeys.epsg? (GeoKeys.ofEpsg spec.epsg)).getD defaultEpsg = _
    rw [GeoKeys.epsg?_ofEpsg]
    rfl
  have hpixels : file.pixels = .ok (.bytes spec.samples.bytes) := hshows.pixels
  have hsamples : samplesOf file.height file.width 3 (.bytes spec.samples.bytes) =
      .ok spec.samples := by
    rw [hshows.height, hshows.width]
    exact samplesOf_bytes haddressable
  simp only [decode, hopened, hshows.colours, bandsOf, hscale, htie, hpixels, hsamples, hepsg,
    hplace, Except.mapError, bind, Except.bind]

theorem decode_encode (hcodec : TiffCodec.Restores) (h : encode spec = .ok src) :
    ∃ raster decoded, spec.toRaster = .ok raster ∧ decode src = .ok decoded ∧
      (decoded == raster) = true := by
  rcases parts_of_encode h with ⟨transform, samples, hcheck, hpixels, hencode⟩
  have haddressable : spec.IsAddressable := by
    by_cases haddressable : spec.IsAddressable
    · exact haddressable
    · rw [SyntheticRaster.pixels?_of_not_addressable haddressable] at hpixels
      cases hpixels
  rw [SyntheticRaster.pixels?_of_addressable haddressable] at hpixels
  cases hpixels
  rcases hcodec _ src (isWhole_pictureOf hcheck) hencode with ⟨file, hopened, hshows⟩
  rcases place_of_check hcheck haddressable with ⟨raster, decoded, hraster, hplace, hsame⟩
  exact ⟨raster, decoded, hraster, decode_of_shows hopened hshows haddressable hplace, hsame⟩

end

end GeoTiff
end TileAudit
