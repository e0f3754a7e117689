import TileAudit.Audit
import TileAudit.Proofs.Effect.Run
import TileAudit.Proofs.FileTree.Contents
import TileAudit.Proofs.GeoTiff.Decoding
import TileAudit.Proofs.Sampling.Equality
import TileAudit.Proofs.Sampling.Pixels
import TileAudit.Proofs.Tiff.Codec

/-!
# Raster files and back

A raster that was written to a file is read from it as it was described, so a tile that is taken
from the file is the tile of the description. This holds for every library that finds in a file what
it wrote.
-/

namespace TileAudit

section

variable [TiffCodec] {spec : SyntheticRaster} {path : String} {w w' : World}

theorem SyntheticRaster.exists_of_run_write (h : Effect.run (spec.write path) w = (.ok (), w')) :
    ∃ file, GeoTiff.encode spec = .ok file ∧
      w'.tree.readContent w'.cwd path = .ok (.bytes file) := by
  unfold write at h
  rcases Effect.exists_of_run_bind_ok h with ⟨_, made, _, hrest⟩
  rcases Effect.exists_of_run_bind_ok hrest with ⟨file, encoded, hencode, hwrite⟩
  rw [Effect.run_ofExcept] at hencode
  rcases Effect.exists_of_run_bind_ok hwrite with ⟨_, written, hbytes, htell⟩
  rcases Effect.exists_of_run_writeBytes_ok hbytes with ⟨t, hcontent, rfl⟩
  rw [Effect.run_tell] at htell
  cases htell
  exact ⟨file, congrArg Prod.fst hencode, FileTree.readContent_of_writeContent hcontent⟩

theorem rasterIn_of_decode {t : FileTree} {cwd : Location} {file : ByteArray} {decoded : Raster}
    (hfile : t.readContent cwd path = .ok (.bytes file))
    (hdecode : GeoTiff.decode file = .ok decoded) : rasterIn path t cwd = .ok decoded := by
  have hbytes : rasterFileBytes path t cwd = .ok file := by
    unfold rasterFileBytes FileTree.readBytes
    rw [hfile]
    rfl
  unfold rasterIn
  rw [hbytes]
  exact hdecode

theorem run_readRaster_of_ok {decoded : Raster}
    (h : rasterIn path w.tree w.cwd = .ok decoded) :
    Effect.run (readRaster path) w =
      (.ok decoded, { w with events := w.events ++ [.readRaster path] }) := by
  unfold readRaster
  rw [Effect.run_bind_of_ok (Effect.run_inspect _ w), h]
  rfl

theorem run_readRaster_of_error {fault : Fault}
    (h : rasterIn path w.tree w.cwd = .error fault) :
    Effect.run (readRaster path) w = (.error fault, w) := by
  unfold readRaster
  rw [Effect.run_bind_of_ok (Effect.run_inspect _ w), h]
  rfl

/-- A raster that was written is read as it was described: the same samples in three bands, the same
coefficients and the same code, whatever the shape, the extent, the code and the way of packing
are. So every tile that is taken from the file is the tile of the description. -/
theorem SyntheticRaster.readRaster_write (hcodec : TiffCodec.Restores)
    (h : Effect.run (spec.write path) w = (.ok (), w')) :
    ∃ raster decoded, spec.toRaster = .ok raster ∧
      Effect.run (readRaster path) w' =
        (.ok decoded, { w' with events := w'.events ++ [.readRaster path] }) ∧
      (decoded == raster) = true ∧ decoded.samples = spec.samples ∧ decoded.bands = 3 ∧
      decoded.transform.toAffine.same raster.transform.toAffine = true ∧
      decoded.epsg = spec.epsg ∧
      ∀ grid tile, decoded.sampleTile? grid tile = raster.sampleTile? grid tile := by
  rcases exists_of_run_write h with ⟨file, hencode, hfile⟩
  rcases GeoTiff.decode_encode hcodec hencode with ⟨raster, decoded, hraster, hdecode, hsame⟩
  rcases parts_of_toRaster hraster with ⟨_, hsamples, hepsg⟩
  rcases Raster.parts_of_beq hsame with ⟨hdecoded, htransform, hcode⟩
  rw [hsamples] at hdecoded
  refine ⟨raster, decoded, hraster, run_readRaster_of_ok (rasterIn_of_decode hfile hdecode), hsame,
    hdecoded, ?_, htransform, hcode.trans hepsg, ?_⟩
  · unfold Raster.bands
    rw [hdecoded]
    rfl
  · intro grid tile
    have hsampled : decoded.sampleTile grid tile = raster.sampleTile grid tile :=
      Raster.sample_eq_of_beq hsame _
    unfold Raster.sampleTile?
    rw [hsampled]

end

def twoPixels : SyntheticRaster :=
  { width := 2, height := 1, epsg := 4326, compression := .lzw }

theorem SyntheticRaster.readRaster_write_twoPixels :
    TiffCodec.Restores ∧
    ∃ w', Effect.run (twoPixels.write "/source.tif") ⟨FileTree.empty, [], []⟩ = (.ok (), w') ∧
      ∃ raster decoded, twoPixels.toRaster = .ok raster ∧
        Effect.run (readRaster "/source.tif") w' =
          (.ok decoded, { w' with events := w'.events ++ [.readRaster "/source.tif"] }) ∧
        (decoded == raster) = true ∧ decoded.samples = twoPixels.samples ∧ decoded.bands = 3 ∧
        decoded.transform.toAffine.same raster.transform.toAffine = true ∧
        decoded.epsg = twoPixels.epsg ∧
        ∀ grid tile, decoded.sampleTile? grid tile = raster.sampleTile? grid tile := by
  have hok : (Effect.run (twoPixels.write "/source.tif") ⟨FileTree.empty, [], []⟩).1.isOk =
      true := by decide +kernel
  rcases hrun : Effect.run (twoPixels.write "/source.tif") ⟨FileTree.empty, [], []⟩ with
    ⟨outcome, w'⟩
  rw [hrun] at hok
  cases outcome with
  | error fault => cases hok
  | ok written => exact ⟨Tiff.restores, w', rfl, readRaster_write Tiff.restores hrun⟩

end TileAudit
