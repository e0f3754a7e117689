import TileAudit.Config.Template
import TileAudit.Effect
import TileAudit.Grid.Basic
import TileAudit.Text.Utf8

/-!
# Settings of an audit

Everything an audit needs to know about its surroundings. Three settings can be given by
environment variables; the others have fixed defaults until they are replaced.
-/

namespace TileAudit

abbrev Environment := List (String × String)

structure Config where
  /-- The scratch directory, which is removed after the audit. -/
  workDir : String
  seeder : String
  /-- How long the seeding program may take. -/
  seedTimeoutMillis : Nat
  /-- The template file; the bundled template is used when there is none. -/
  templatePath : Option String
  grid : TileGrid
  gridName : String
  rasterWidth : Nat
  rasterHeight : Nat
  zoomLevels : List UInt32

namespace Config

def defaultGrid : TileGrid :=
  ⟨1000.0, ⟨-500000.0, 500000.0⟩, defaultTileSize⟩

def defaultGridName : String := "synthetic_grid"

/-- The number of seconds that a variable grants, if it is a numeral of 64 bits. -/
def timeoutSeconds? (value : String) : Option Nat :=
  match Numeral.readNat Numeral.limit64 value.toList with
  | .ok n => some n
  | .error _ => none

def ofEnvironment (env : Environment) : Config where
  workDir := (env.lookup "TILECHECK_WORK_DIR").getD "/tmp/mc_test"
  seeder := (env.lookup "TILECHECK_SEEDER").getD "mapcache_seed"
  seedTimeoutMillis :=
    1000 * (((env.lookup "TILECHECK_SEED_TIMEOUT_SECS").bind timeoutSeconds?).getD 300)
  templatePath := none
  grid := defaultGrid
  gridName := defaultGridName
  rasterWidth := 512
  rasterHeight := 512
  zoomLevels := [0, 1]

def cacheBase (config : Config) : String :=
  PathText.join config.workDir "cache_data"

def configPath (config : Config) : String :=
  PathText.join config.workDir "mapcache.xml"

def rasterPath (config : Config) : String :=
  PathText.join config.workDir "synthetic_test_data.tif"

def readTemplate (tree : FileTree) (cwd : Location) (path : String) : Except ConfigFault String :=
  match tree.readBytes cwd path with
  | .error kind => .error (.unreadableTemplate path kind.text)
  | .ok bytes =>
      match Utf8.strict? bytes with
      | some text => .ok text
      | none => .error (.unreadableTemplate path "stream did not contain valid UTF-8")

def template (config : Config) (tree : FileTree) (cwd : Location) : Except ConfigFault String :=
  match config.templatePath with
  | none => .ok Template.bundled
  | some path => readTemplate tree cwd path

def rendered (config : Config) (tree : FileTree) (cwd : Location) : Except ConfigFault String := do
  let text ← config.template tree cwd
  Template.render text config.rasterPath config.cacheBase

/-- Writes the cache configuration and gives its path. The text is settled before anything is
made or written. -/
def write (config : Config) : Effect String := do
  match ← Effect.inspect config.rendered with
  | .error fault => Effect.ofExcept (.error (.config fault))
  | .ok text =>
      Effect.makeParents config.configPath
      Effect.writeBytes config.configPath text.toUTF8
      Effect.tell (.wroteConfig config.configPath)
      return config.configPath

end Config
end TileAudit
