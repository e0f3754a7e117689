import TileAudit.Backend
import TileAudit.Binary64.Literal
import TileAudit.Grid.Address
import TileAudit.Synthetic

/-!
# Arguments of the command line

Which arguments each command takes, how their values are read, and how a value that cannot be read
is told.
-/

namespace TileAudit
namespace CommandLine

inductive ArgumentId where
  | logLevel
  | output
  | width
  | height
  | extentSize
  | epsg
  | compression
  | raster
  | cacheDir
  | backend
  | tileset
  | gridName
  | tile
  | tiles
  | baseResolution
  | originX
  | originY
  | tileSize
  | workDir
  | seeder
  | timeout
  | backends
deriving DecidableEq, Repr

inductive Value where
  | text (value : String)
  | natural (value : Nat)
  | number (value : Float)
  | epsg (value : UInt16)
  | compression (value : Compression)
  | backend (value : Backend)
  | tile (value : TileAddress)

inductive ValueFault where
  | missing
  /-- The value is not one of those that are listed. -/
  | unlisted
  | malformed (reason : String)
deriving DecidableEq, Repr

abbrev Reader := String → Except ValueFault Value

def readPath : Reader := fun s =>
  if s.isEmpty then .error .missing else .ok (.text s)

def readText : Reader := fun s =>
  .ok (.text s)

def readNatural : Reader := fun s =>
  match Numeral.readNat Numeral.limit64 s.toList with
  | .ok n => .ok (.natural n)
  | .error fault => .error (.malformed fault.message)

def readNumber : Reader := fun s =>
  match Binary64.ofLiteral s with
  | .ok x => .ok (.number x)
  | .error fault => .error (.malformed fault.message)

def readEpsg : Reader := fun s =>
  match Numeral.readInt Numeral.limitSigned64 s.toList with
  | .error fault => .error (.malformed fault.message)
  | .ok n =>
      if 0 ≤ n ∧ n ≤ 65535 then .ok (.epsg (UInt16.ofNat n.toNat))
      else .error (.malformed (toString n ++ " is not in 0..=65535"))

def readCompression : Reader := fun s =>
  if s = "none" then .ok (.compression .none)
  else if s = "lzw" then .ok (.compression .lzw)
  else if s = "deflate" then .ok (.compression .deflate)
  else if s.isEmpty then .error .missing
  else .error .unlisted

def readBackend : Reader := fun s =>
  match Backend.ofName s with
  | .ok kind => .ok (.backend kind)
  | .error fault => .error (.malformed (Fault.message (.config fault)))

def readTile : Reader := fun s =>
  match TileAddress.ofArgument s with
  | .ok tile => .ok (.tile tile)
  | .error fault => .error (.malformed fault.message)

structure OptionSpec where
  id : ArgumentId
  long : String
  short : Option Char := none
  /-- The name of the value in messages. -/
  valueName : String
  read : Reader
  required : Bool := false
  /-- The option may be given more than once, and a comma separates values. -/
  several : Bool := false
  /-- A value may begin with a hyphen. -/
  hyphenValues : Bool := false

structure PositionalSpec where
  id : ArgumentId
  /-- The name in messages. -/
  label : String
  read : Reader
  required : Bool
  several : Bool

structure CommandSpec where
  options : List OptionSpec
  positional : Option PositionalSpec

def OptionSpec.label (o : OptionSpec) : String :=
  "--" ++ o.long ++ " <" ++ o.valueName ++ ">"

inductive CommandName where
  | generate
  | expected
  | verify
  | run
deriving DecidableEq, Repr

namespace CommandName

def word : CommandName → String
  | generate => "generate"
  | expected => "expected"
  | verify => "verify"
  | run => "run"

def all : List CommandName :=
  [generate, expected, verify, run]

def ofWord? (s : String) : Option CommandName :=
  all.find? fun name => name.word = s

end CommandName

/-- The options before the command. -/
def globalSpec : CommandSpec where
  options := [⟨.logLevel, "log-level", some 'l', "LOG_LEVEL", readText, false, false, false⟩]
  positional := none

def gridOptions : List OptionSpec :=
  [⟨.baseResolution, "base-resolution", none, "BASE_RESOLUTION", readNumber, false, false, false⟩,
    ⟨.originX, "origin-x", none, "ORIGIN_X", readNumber, false, false, true⟩,
    ⟨.originY, "origin-y", none, "ORIGIN_Y", readNumber, false, false, true⟩,
    ⟨.tileSize, "tile-size", none, "TILE_SIZE", readNatural, false, false, false⟩]

def rasterOption : OptionSpec :=
  ⟨.raster, "raster", some 'r', "RASTER", readPath, true, false, false⟩

def outputOption : OptionSpec :=
  ⟨.output, "output", some 'o', "OUTPUT", readPath, true, false, false⟩

def specOf : CommandName → CommandSpec
  | .generate =>
      { options :=
          [outputOption,
            ⟨.width, "width", none, "WIDTH", readNatural, false, false, false⟩,
            ⟨.height, "height", none, "HEIGHT", readNatural, false, false, false⟩,
            ⟨.extentSize, "extent-size", none, "EXTENT_SIZE", readNumber, false, false, false⟩,
            ⟨.epsg, "epsg", none, "EPSG", readEpsg, false, false, false⟩,
            ⟨.compression, "compression", none, "COMPRESSION", readCompression, false, false, false⟩]
        positional := none }
  | .expected =>
      { options := [rasterOption, outputOption] ++ gridOptions
        positional := some ⟨.tile, "<TILE>", readTile, true, false⟩ }
  | .verify =>
      { options :=
          [rasterOption,
            ⟨.cacheDir, "cache-dir", some 'c', "CACHE_DIR", readPath, true, false, false⟩,
            ⟨.backend, "backend", some 'b', "BACKEND", readBackend, false, false, false⟩,
            ⟨.tileset, "tileset", none, "TILESET", readText, false, false, false⟩,
            ⟨.gridName, "grid-name", none, "GRID_NAME", readText, false, false, false⟩] ++
          gridOptions
        positional := some ⟨.tiles, "<TILES>...", readTile, true, true⟩ }
  | .run =>
      { options :=
          [⟨.workDir, "work-dir", none, "WORK_DIR", readPath, false, false, false⟩,
            ⟨.seeder, "seeder", none, "SEEDER", readText, false, false, false⟩,
            ⟨.timeout, "timeout", none, "TIMEOUT", readNatural, false, false, false⟩,
            ⟨.backends, "backends", some 'b', "BACKENDS", readBackend, false, true, false⟩]
        positional := some ⟨.tiles, "[TILES]...", readTile, false, true⟩ }

end CommandLine
end TileAudit
