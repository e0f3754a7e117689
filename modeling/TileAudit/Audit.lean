import TileAudit.Comparison
import TileAudit.Config.Basic
import TileAudit.GeoTiff.Reader
import TileAudit.GeoTiff.Writer
import TileAudit.Sampling
import TileAudit.Store.Basic

/-!
# Steps of an audit

Writing and reading raster files, sampling a tile, comparing two tiles, and saving one, each
with the events it tells.
-/

namespace TileAudit

/-- Writes a raster file. The file is made first, and the description is checked after that. -/
def SyntheticRaster.write [TiffCodec] (spec : SyntheticRaster) (path : String) : Effect Unit := do
  Effect.writeBytes path ByteArray.empty
  let file ← Effect.ofExcept (GeoTiff.encode spec)
  Effect.writeBytes path file
  Effect.tell (.wroteRaster path)

def writeSyntheticRaster [TiffCodec] (path : String) (width height : Nat) : Effect Raster := do
  let spec : SyntheticRaster := { width := width, height := height }
  spec.write path
  Effect.ofExcept spec.toRaster

/-- The bytes of a raster file. A directory can be opened, but it is no raster file. -/
def rasterFileBytes (path : String) (tree : FileTree) (cwd : Location) : Except Fault ByteArray :=
  match tree.readBytes cwd path with
  | .ok bytes => .ok bytes
  | .error .isADirectory => .error (.tiffDecode IoKind.isADirectory.text)
  | .error kind => .error (Fault.ofIo kind)

def rasterIn [TiffCodec] (path : String) (tree : FileTree) (cwd : Location) :
    Except Fault Raster := do
  let bytes ← rasterFileBytes path tree cwd
  GeoTiff.decode bytes

/-- Reads a raster file. A raster that has a georeference is told, whatever its shape. -/
def readRaster [TiffCodec] (path : String) : Effect Raster := do
  match ← Effect.inspect (rasterIn path) with
  | .error fault => Effect.ofExcept (.error fault)
  | .ok raster =>
      Effect.tell (.readRaster path)
      return raster

def Raster.expectedTile (raster : Raster) (grid : TileGrid) (tile : TileAddress) : Effect Tile := do
  Effect.tell (.locatedTile tile)
  match raster.sampleTile? grid tile with
  | none => Effect.ofExcept (.error .brokenOff)
  | some expected =>
      Effect.tellAll
        (if raster.reachesOutside (grid.sampleGrid tile) then [.reachedOutside] else [])
      return expected

def Comparison.events : Comparison → List Event
  | absent => [.comparedAbsent]
  | shapesDiffer => [.comparedShapes]
  | equal => [.comparedEqual]
  | different _ count preview => .comparedDifferent count :: preview.map fun _ => .listedMismatch

def compareTiles (expected : Tile) (actual : Option Tile) : Effect Comparison := do
  let comparison := expected.compare actual
  Effect.tellAll comparison.events
  return comparison

def notEncoded (reason : String) : Fault :=
  .invalidRaster (.notEncoded reason)

def writeImageFile (path : String) (bytes : ByteArray) (tree : FileTree) (cwd : Location) :
    Except Fault FileTree :=
  match tree.writeContent cwd path (.bytes bytes) with
  | .ok tree => .ok tree
  | .error kind => .error (notEncoded kind.text)

def Effect.changeOr (f : FileTree → Location → Except Fault FileTree) : Effect Unit :=
  fun w =>
    match f w.tree w.cwd with
    | .ok tree => (.ok (), { w with tree := tree })
    | .error fault => (.error fault, w)

/-- Saves a tile. The suffix of the file's name chooses the format, and the file is made before the
tile is encoded. -/
def Tile.save [ImageCodec] (tile : Tile) (path : String) : Effect Unit := do
  match ImageCodec.encoderFor path with
  | .error reason => Effect.ofExcept (.error (notEncoded reason))
  | .ok encode =>
      Effect.changeOr (writeImageFile path ByteArray.empty)
      match encode tile.toImage with
      | .error reason => Effect.ofExcept (.error (notEncoded reason))
      | .ok bytes => Effect.changeOr (writeImageFile path bytes)

end TileAudit
