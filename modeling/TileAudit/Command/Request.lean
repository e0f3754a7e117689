import TileAudit.Audit
import TileAudit.Command.Scanner

/-!
# Requests

What a command line asks for, with the defaults filled in.
-/

namespace TileAudit
namespace CommandLine

structure GenerateRequest where
  output : String
  raster : SyntheticRaster

structure ExpectedRequest where
  raster : String
  tile : TileAddress
  output : String
  grid : TileGrid

structure VerifyRequest where
  raster : String
  cacheDir : String
  backend : Backend
  tileset : String
  gridName : String
  tiles : List TileAddress
  grid : TileGrid

structure RunRequest where
  workDir : Option String
  seeder : Option String
  timeoutSeconds : Option Nat
  backends : List Backend
  tiles : List TileAddress

inductive Request where
  | generate (request : GenerateRequest)
  | expected (request : ExpectedRequest)
  | verify (request : VerifyRequest)
  | run (request : RunRequest)

namespace Matches

def all (found : Matches) (id : ArgumentId) : List Value :=
  found.flatMap fun m => if m.1 = id then m.2 else []

def text? (found : Matches) (id : ArgumentId) : Option String :=
  (all found id).findSome? fun v =>
    match v with
    | .text s => some s
    | _ => none

def natural? (found : Matches) (id : ArgumentId) : Option Nat :=
  (all found id).findSome? fun v =>
    match v with
    | .natural n => some n
    | _ => none

def number? (found : Matches) (id : ArgumentId) : Option Float :=
  (all found id).findSome? fun v =>
    match v with
    | .number x => some x
    | _ => none

def tiles (found : Matches) (id : ArgumentId) : List TileAddress :=
  (all found id).filterMap fun v =>
    match v with
    | .tile t => some t
    | _ => none

def backends (found : Matches) (id : ArgumentId) : List Backend :=
  (all found id).filterMap fun v =>
    match v with
    | .backend b => some b
    | _ => none

def epsg? (found : Matches) : Option UInt16 :=
  (all found .epsg).findSome? fun v =>
    match v with
    | .epsg n => some n
    | _ => none

def compression? (found : Matches) : Option Compression :=
  (all found .compression).findSome? fun v =>
    match v with
    | .compression c => some c
    | _ => none

def grid (found : Matches) : TileGrid :=
  let usual := Config.defaultGrid
  ⟨(number? found .baseResolution).getD usual.baseResolution,
    ⟨(number? found .originX).getD usual.origin.x, (number? found .originY).getD usual.origin.y⟩,
    (natural? found .tileSize).getD usual.tileSize⟩

def generate? (found : Matches) : Option GenerateRequest := do
  let output ← text? found .output
  pure
    ⟨output,
      { width := (natural? found .width).getD 512
        height := (natural? found .height).getD 512
        extent :=
          BoundingBox.centered Point.origin ((number? found .extentSize).getD defaultExtentSize)
        epsg := (epsg? found).getD defaultEpsg
        compression := (compression? found).getD .none }⟩

def expected? (found : Matches) : Option ExpectedRequest := do
  let raster ← text? found .raster
  let output ← text? found .output
  let tile ← (tiles found .tile).head?
  return ⟨raster, tile, output, grid found⟩

def verify? (found : Matches) : Option VerifyRequest := do
  let raster ← text? found .raster
  let cacheDir ← text? found .cacheDir
  let backend := (backends found .backend).headD .disk
  pure
    ⟨raster, cacheDir, backend, (text? found .tileset).getD backend.defaultTileset,
      (text? found .gridName).getD Config.defaultGridName, tiles found .tiles, grid found⟩

/-- The tiles that are checked when none are named. -/
def usualTiles : List TileAddress :=
  [⟨0, 0, 0⟩, ⟨1, 1, 2⟩]

def run (found : Matches) : RunRequest where
  workDir := text? found .workDir
  seeder := text? found .seeder
  timeoutSeconds := natural? found .timeout
  backends :=
    if (all found .backends).isEmpty then Backend.all else backends found .backends
  tiles := if (all found .tiles).isEmpty then usualTiles else tiles found .tiles

end Matches

/-- What the words of a command line ask for, and the least urgent level of events that is shown. -/
def ofWords (words : List String) : Except UsageFault (Level × Request) := do
  let (globals, name, rest) ← scanGlobal words Scanned.start
  let level := ((Matches.text? globals .logLevel).map Level.ofName).getD .info
  let found ← scan (specOf name) rest
  let request : Option Request :=
    match name with
    | .generate => (Matches.generate? found).map .generate
    | .expected => (Matches.expected? found).map .expected
    | .verify => (Matches.verify? found).map .verify
    | .run => some (.run (Matches.run found))
  match request with
  | some request => .ok (level, request)
  | none => .error .misuse

end CommandLine
end TileAudit
