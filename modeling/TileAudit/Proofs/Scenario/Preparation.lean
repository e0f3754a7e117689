import TileAudit.Proofs.Config.Writing
import TileAudit.Proofs.GeoTiff.RoundTrip
import TileAudit.Scenario

/-!
# Prepared scenarios

What is in the file tree after a scenario was prepared: the raster file holds the encoded raster,
and the cache configuration, which is written later, leaves it alone.
-/

namespace TileAudit

open PathText

theorem isName_rasterFile : IsName "synthetic_test_data.tif" where
  ne_empty := by decide
  no_slash := by decide
  ne_point := by decide
  ne_points := by decide

theorem isName_configFile : IsName "mapcache.xml" where
  ne_empty := by decide
  no_slash := by decide
  ne_point := by decide
  ne_points := by decide

theorem rasterFile_ne_configFile : "synthetic_test_data.tif" ≠ "mapcache.xml" := by
  decide

namespace Config

variable {config : Config} {w w' : World} {path : String} {content : Content}

theorem readContent_rasterPath_of_written {t t' : FileTree} {cwd : Location} {dir name : String}
    {content new : Content} (hname : IsName name) (hne : "synthetic_test_data.tif" ≠ name)
    (hwrite : FileTree.writeContent (t.makeParents cwd (join dir name)).1 cwd (join dir name) new =
      .ok t')
    (h : t.readContent cwd config.rasterPath = .ok content) :
    t'.readContent cwd config.rasterPath = .ok content := by
  have hkept := FileTree.readContent_of_makeParents (join dir name) h
  rcases FileTree.exists_of_readContent hkept with ⟨place, _, hplace, _, _⟩
  unfold rasterPath at h hkept hplace ⊢
  exact FileTree.readContent_of_written_elsewhere
    (FileTree.locate_join_ne isName_rasterFile hname hne hplace) hwrite hkept

theorem readContent_rasterPath_of_run_write
    (hraster : w.tree.readContent w.cwd config.rasterPath = .ok content)
    (h : Effect.run config.write w = (.ok path, w')) :
    w'.tree.readContent w'.cwd config.rasterPath = .ok content := by
  have hends := writeEnds_run config w
  rw [h] at hends
  cases hends with
  | written htext hparents hwrite =>
      have hmade := congrArg Prod.fst hparents
      dsimp only at hmade
      rw [← hmade] at hwrite
      exact readContent_rasterPath_of_written isName_configFile rasterFile_ne_configFile hwrite
        hraster

theorem eq_configPath_of_run_write (h : Effect.run config.write w = (.ok path, w')) :
    path = config.configPath :=
  (exists_isWritten h).1

end Config

namespace Scenario

def sourceRaster (config : Config) : SyntheticRaster :=
  { width := config.rasterWidth, height := config.rasterHeight }

section

variable [TiffCodec] {config : Config} {scenario : Scenario} {w w' : World}

theorem exists_of_run_fill {configFile : String}
    (h : Effect.run (fill config) w = (.ok configFile, w')) :
    ∃ file, GeoTiff.encode (sourceRaster config) = .ok file ∧
      w'.tree.readContent w'.cwd config.rasterPath = .ok (.bytes file) := by
  unfold fill at h
  rcases Effect.exists_of_run_bind_ok h with ⟨_, made, _, hrest⟩
  rcases Effect.exists_of_run_bind_ok hrest with ⟨_, written, hraster, hconfig⟩
  rcases SyntheticRaster.exists_of_run_write hraster with ⟨file, hencode, hfile⟩
  exact ⟨file, hencode, Config.readContent_rasterPath_of_run_write hfile hconfig⟩

theorem eq_configPath_of_run_fill {configFile : String}
    (h : Effect.run (fill config) w = (.ok configFile, w')) : configFile = config.configPath := by
  unfold fill at h
  rcases Effect.exists_of_run_bind_ok h with ⟨_, made, _, hrest⟩
  rcases Effect.exists_of_run_bind_ok hrest with ⟨_, written, _, hconfig⟩
  exact Config.eq_configPath_of_run_write hconfig

theorem filled_of_run_prepare (h : Effect.run (prepare config) w = (.ok scenario, w')) :
    scenario.config = config ∧
      ∃ made, Effect.run (fill config) made = (.ok scenario.configFile, w') := by
  unfold prepare at h
  rcases Effect.exists_of_run_bind_ok h with ⟨workspace, made, _, hrest⟩
  rcases Effect.exists_of_run_bind_ok hrest with ⟨outcome, filled, hattempt, hend⟩
  rw [Effect.run_attempt] at hattempt
  rcases hfill : Effect.run (fill config) made with ⟨result, after⟩
  rw [hfill] at hattempt
  cases hattempt
  cases result with
  | error fault =>
      rcases Effect.exists_of_run_bind_ok hend with ⟨_, _, _, hfault⟩
      cases hfault
  | ok configFile =>
      cases hend
      exact ⟨rfl, made, hfill⟩

theorem exists_of_run_prepare (h : Effect.run (prepare config) w = (.ok scenario, w')) :
    scenario.config = config ∧
      ∃ file, GeoTiff.encode (sourceRaster config) = .ok file ∧
        w'.tree.readContent w'.cwd config.rasterPath = .ok (.bytes file) := by
  rcases filled_of_run_prepare h with ⟨hconfig, made, hfill⟩
  exact ⟨hconfig, exists_of_run_fill hfill⟩

theorem configFile_of_run_prepare (h : Effect.run (prepare config) w = (.ok scenario, w')) :
    scenario.configFile = config.configPath := by
  rcases filled_of_run_prepare h with ⟨_, made, hfill⟩
  exact eq_configPath_of_run_fill hfill

end

def templateTree : FileTree :=
  FileTree.empty.insert ["cache.xml"]
    (.file (.bytes (Template.rasterToken ++ " " ++ Template.cacheToken).toUTF8) false)

def smallConfig : Config :=
  { Config.ofEnvironment [] with
    workDir := "/run", templatePath := some "/cache.xml", rasterWidth := 2, rasterHeight := 1,
    grid := { Config.defaultGrid with tileSize := 1 } }

end Scenario
end TileAudit
