import TileAudit.Command.Run

/-!
# What a command reaches

The files and directories that a request looks at or changes, so that they can be loaded before it
is performed.
-/

namespace TileAudit
namespace CommandLine

def storePaths (store : Store) (tiles : List TileAddress) : List String :=
  match store with
  | .disk store => tiles.map store.tilePath
  | .table store => [store.database]

/-- The paths that a request looks at or changes. -/
def Request.paths (env : Environment) : Request → List String
  | .generate request => [request.output]
  | .expected request => [request.raster, request.output]
  | .verify request =>
      request.raster ::
        storePaths
          (Store.ofBackend request.backend request.cacheDir request.tileset request.gridName)
          request.tiles
  | .run request =>
      let config := request.config env
      [config.workDir, config.seeder]

def pathsOf (env : Environment) (words : List String) : List String :=
  match ofWords words with
  | .ok (_, request) => request.paths env
  | .error _ => []

def variableNames : List String :=
  ["TILECHECK_WORK_DIR", "TILECHECK_SEEDER", "TILECHECK_SEED_TIMEOUT_SECS"]

end CommandLine
end TileAudit
