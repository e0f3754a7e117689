import TileAudit.Audit
import TileAudit.Seeder
import TileAudit.Workspace

/-!
# Scenarios

An audit from end to end: a workspace with a source raster and a cache configuration, a seeder that
fills the cache, and tiles that are read back and compared. Whatever fails while a scenario is being
prepared, its workspace is removed again.
-/

namespace TileAudit

structure Scenario where
  config : Config
  configFile : String
  workspace : Workspace

namespace Scenario

variable [TiffCodec] [ImageCodec] [DatabaseEngine]

def grid (scenario : Scenario) : TileGrid :=
  scenario.config.grid

/-- Fills a fresh workspace: the cache directory, the source raster and the cache configuration. -/
def fill (config : Config) : Effect String := do
  Effect.makeDirectories config.cacheBase
  let raster : SyntheticRaster := { width := config.rasterWidth, height := config.rasterHeight }
  raster.write config.rasterPath
  config.write

def prepare (config : Config) : Effect Scenario := do
  let workspace ← Workspace.create config.workDir
  match ← Effect.attempt (fill config) with
  | .ok configFile => return ⟨config, configFile, workspace⟩
  | .error fault =>
      workspace.remove
      Effect.ofExcept (.error fault)

def finish (scenario : Scenario) : Effect Unit :=
  scenario.workspace.remove

def seed (scenario : Scenario) (seeder : Seeder) (kind : Backend) : Effect SeedOutput := do
  Effect.tell (.seeding kind)
  seeder scenario.configFile kind.defaultTileset scenario.config.zoomLevels

def store (scenario : Scenario) (kind : Backend) : Store :=
  Store.ofBackend kind scenario.config.cacheBase kind.defaultTileset scenario.config.gridName

def expectedTile (scenario : Scenario) (tile : TileAddress) : Effect Tile := do
  let raster ← readRaster scenario.config.rasterPath
  raster.expectedTile scenario.grid tile

def verifyTile (scenario : Scenario) (store : Store) (tile : TileAddress) : Effect Comparison := do
  Effect.tell (.verifying store.backend tile)
  let expected ← scenario.expectedTile tile
  let actual ← store.readTile tile
  compareTiles expected actual

/-- Checks tiles of a store, one after the other, up to the first fault. -/
def verifyTiles (scenario : Scenario) (store : Store) :
    List TileAddress → Effect (List (TileAddress × Comparison))
  | [] => return []
  | tile :: rest => do
      let comparison ← scenario.verifyTile store tile
      let others ← scenario.verifyTiles store rest
      return (tile, comparison) :: others

end Scenario
end TileAudit
