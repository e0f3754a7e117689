import TileAudit.Command.Diagnosis
import TileAudit.Command.Request
import TileAudit.Scenario
import TileAudit.Text.Controls

/-!
# Running the command line

What each command does, what it prints, and how it ends.
-/

namespace TileAudit
namespace CommandLine

variable [TiffCodec] [ImageCodec] [DatabaseEngine] [Launcher]

/-- A step of a command: an effect that fails with a diagnosis. -/
abbrev Step (α : Type) : Type :=
  ExceptT Diagnosis (StateM World) α

def diagnosed {α : Type} (diagnose : Fault → Diagnosis) (step : Effect α) : Step α :=
  fun w =>
    match step w with
    | (.ok a, w) => (.ok a, w)
    | (.error fault, w) => (.error (diagnose fault), w)

def plainly {α : Type} (step : Effect α) : Step α :=
  diagnosed Diagnosis.ofFault step

def during {α : Type} (activity : String) (step : Effect α) : Step α :=
  diagnosed (Diagnosis.during activity) step

structure Outcome where
  printed : List String
  failure : Option Diagnosis
deriving DecidableEq, Repr

structure Checked where
  backend : Backend
  tile : TileAddress
  comparison : Comparison

namespace Checked

def line (c : Checked) : String :=
  padTo ' ' .left 4 (if c.comparison.matched then "OK" else "FAIL") ++ " " ++
    padTo ' ' .left 6 c.backend.name ++ " " ++ c.tile.name ++ " (" ++
    toString c.comparison.mismatchCount ++ " differing samples)"

end Checked

/-- Tells the results. The command fails when a tile did not match. -/
def report (results : List Checked) : Effect Outcome := do
  let failed := (results.filter fun c => !c.comparison.matched).length
  let total := results.length
  let lines := results.map Checked.line
  if failed = 0 then
    Effect.tell (.allMatch total)
    return ⟨lines, none⟩
  else
    Effect.tell (.verificationFailed failed total)
    let headline := toString failed ++ " of " ++ toString total ++ " tiles did not match"
    return ⟨lines, some { headline := headline, causes := [] }⟩

def generate (request : GenerateRequest) : Step Outcome := do
  during ("writing " ++ request.output) (request.raster.write request.output)
  return ⟨[request.output], none⟩

def expected (request : ExpectedRequest) : Step Outcome := do
  let raster ← during ("reading " ++ request.raster) (readRaster request.raster)
  plainly do
    let tile ← raster.expectedTile request.grid request.tile
    tile.save request.output
    Effect.tell (.wroteExpected request.tile)
  return ⟨[request.output], none⟩

def checkTiles (raster : Raster) (grid : TileGrid) (store : Store) :
    List TileAddress → Effect (List Checked)
  | [] => return []
  | tile :: rest => do
      let expected ← raster.expectedTile grid tile
      let actual ← store.readTile tile
      let comparison ← compareTiles expected actual
      let others ← checkTiles raster grid store rest
      return ⟨store.backend, tile, comparison⟩ :: others

def verify (request : VerifyRequest) : Step Outcome := do
  let raster ← during ("reading " ++ request.raster) (readRaster request.raster)
  let store := Store.ofBackend request.backend request.cacheDir request.tileset request.gridName
  plainly do
    let results ← checkTiles raster request.grid store request.tiles
    report results

/-- The zoom levels of some tiles, each once and in order. -/
def zoomLevels (tiles : List TileAddress) : List UInt32 :=
  ((tiles.map TileAddress.zoom).mergeSort fun a b => a ≤ b).eraseReps

def RunRequest.config (env : Environment) (request : RunRequest) : Config :=
  let usual := Config.ofEnvironment env
  { usual with
    workDir := request.workDir.getD usual.workDir
    seeder := request.seeder.getD usual.seeder
    seedTimeoutMillis := (request.timeoutSeconds.map (1000 * ·)).getD usual.seedTimeoutMillis
    zoomLevels := zoomLevels request.tiles }

def seedAndCheck (scenario : Scenario) (seeder : Seeder) (tiles : List TileAddress) :
    List Backend → Effect (List Checked)
  | [] => return []
  | kind :: rest => do
      let _ ← scenario.seed seeder kind
      let results ← scenario.verifyTiles (scenario.store kind) tiles
      let others ← seedAndCheck scenario seeder tiles rest
      return results.map (fun r => ⟨kind, r.1, r.2⟩) ++ others

/-- Checks a cache from end to end. The scenario is ended whatever happens. -/
def run (env : Environment) (request : RunRequest) : Step Outcome :=
  plainly do
    let config := request.config env
    let seeder : SeedingProgram :=
      { program := config.seeder, timeoutMillis := config.seedTimeoutMillis }
    let scenario ← Scenario.prepare config
    Effect.thenAlways
      (do
        let results ← seedAndCheck scenario seeder.seed request.tiles request.backends
        report results)
      scenario.finish

def Request.perform (env : Environment) : Request → Step Outcome
  | .generate request => CommandLine.generate request
  | .expected request => CommandLine.expected request
  | .verify request => CommandLine.verify request
  | .run request => CommandLine.run env request

structure Completion where
  exit : Nat
  stdout : List String
  stderr : List String
  /-- The least urgent level of events that is shown. -/
  shown : Level
deriving DecidableEq, Repr

def versionLine : String := "tilecheck 0.1.0"

def invalidValueLine (value label : String) (reason : Option String) : String :=
  "error: invalid value '" ++ Text.withoutControls value ++ "' for '" ++ label ++ "'" ++
    (match reason with
    | none => ""
    | some text => ": " ++ Text.withoutControls text)

def usageLines : List String :=
  ["Usage: tilecheck [OPTIONS] <COMMAND>", "", "Commands:"] ++
    CommandName.all.map ("  " ++ CommandName.word ·)

/-- How a command line ends that is not understood, or that asks about the program itself. -/
def UsageFault.completion : UsageFault → Completion
  | .invalidValue value label reason => ⟨2, [], [invalidValueLine value label reason], .info⟩
  | .misuse => ⟨2, [], ["error: the arguments cannot be understood"], .info⟩
  | .wantsHelp => ⟨0, usageLines, [], .info⟩
  | .wantsVersion => ⟨0, [versionLine], [], .info⟩

def completionOf (shown : Level) : Except Diagnosis Outcome → Completion
  | .error diagnosis => ⟨diagnosis.exitCode, [], diagnosis.toLines, shown⟩
  | .ok ⟨printed, some diagnosis⟩ => ⟨1, printed, diagnosis.toLines, shown⟩
  | .ok ⟨printed, none⟩ => ⟨0, printed, [], shown⟩

def execute (env : Environment) (words : List String) (w : World) : Completion × World :=
  match ofWords words with
  | .error fault => (fault.completion, w)
  | .ok (shown, request) =>
      let (outcome, w) := request.perform env w
      (completionOf shown outcome, w)

end CommandLine
end TileAudit
