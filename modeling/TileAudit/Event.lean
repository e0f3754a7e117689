import TileAudit.Backend
import TileAudit.Grid.Address

/-!
# Events

What an audit tells while it runs. Each event has a level, and a reader chooses the least
urgent level that is shown.
-/

namespace TileAudit

inductive Level where
  | error
  | warn
  | info
  | debug
  | trace
deriving DecidableEq, Repr

namespace Level

def rank : Level → Nat
  | error => 0
  | warn => 1
  | info => 2
  | debug => 3
  | trace => 4

def all : List Level :=
  [error, warn, info, debug, trace]

def name : Level → String
  | error => "ERROR"
  | warn => "WARN"
  | info => "INFO"
  | debug => "DEBUG"
  | trace => "TRACE"

/-- The level that a name asks for, in capital or small letters; an unknown name asks for
the middle one. -/
def ofName (text : String) : Level :=
  let lowered := text.toList.map Char.toLower
  (all.find? fun level => level.name.toList.map Char.toLower = lowered).getD info

end Level

inductive Event where
  | wroteRaster (path : String)
  | readRaster (path : String)
  | locatedTile (tile : TileAddress)
  /-- Some pixel centres of a tile lie outside the raster. -/
  | reachedOutside
  | readingTile (kind : Backend) (tile : TileAddress)
  /-- The file of a tile, or the database, is not there. -/
  | tileFileMissing (path : String)
  /-- The file of a tile is there and cannot be read. -/
  | tileFileUnreadable (path : String)
  /-- The stored bytes are no image. -/
  | undecodable (origin : String)
  /-- No row answers for a tile. -/
  | rowMissing (tile : TileAddress)
  /-- The row that answers holds nothing. -/
  | rowEmpty (tile : TileAddress)
  /-- More than one row answers. -/
  | severalRows (tile : TileAddress)
  | queryFailed (tile : TileAddress) (reason : String)
  | comparedAbsent
  | comparedShapes
  | comparedEqual
  /-- The compared tiles differ in this many samples. -/
  | comparedDifferent (count : Nat)
  | listedMismatch
  | wroteConfig (path : String)
  /-- A workspace of an earlier run is cleared. -/
  | clearingWorkspace (path : String)
  | removedWorkspace (path : String)
  | cleanupFailed (path : String)
  /-- A store is about to be filled. -/
  | seeding (kind : Backend)
  | startingSeeder (program : String)
  | seederTimedOut
  | seederFailed
  /-- What the failed seeding program printed. -/
  | failedSeederOutput
  /-- What the failed seeding program complained about. -/
  | failedSeederErrors
  /-- What the seeding program printed. -/
  | seederOutput
  /-- What the seeding program complained about. -/
  | seederErrors
  | seederFinished
  /-- A tile is about to be checked. -/
  | verifying (kind : Backend) (tile : TileAddress)
  /-- The expected tile was written to a file. -/
  | wroteExpected (tile : TileAddress)
  /-- Some tiles did not match. -/
  | verificationFailed (failed total : Nat)
  | allMatch (total : Nat)
deriving DecidableEq, Repr

def Event.level : Event → Level
  | tileFileMissing _ | tileFileUnreadable _ | rowMissing _ | rowEmpty _ | queryFailed _ _
  | comparedAbsent | comparedShapes | comparedDifferent _ | listedMismatch
  | seederTimedOut | seederFailed | failedSeederOutput | failedSeederErrors
  | verificationFailed _ _ => .error
  | undecodable _ | severalRows _ | cleanupFailed _ | seederErrors => .warn
  | wroteRaster _ | comparedEqual | wroteConfig _ | clearingWorkspace _ | removedWorkspace _
  | seeding _ | startingSeeder _ | seederOutput | seederFinished | verifying _ _
  | wroteExpected _ | allMatch _ => .info
  | readRaster _ | locatedTile _ | reachedOutside | readingTile _ _ => .debug

def Event.text : Event → String
  | wroteRaster path => "Wrote raster " ++ path
  | readRaster path => "Read raster " ++ path
  | locatedTile tile => "Located tile " ++ tile.name
  | reachedOutside => "Some pixels lie outside the raster"
  | readingTile kind tile => "Reading tile " ++ tile.name ++ " from " ++ kind.name
  | tileFileMissing path => "File not found: " ++ path
  | tileFileUnreadable path => "Cannot read " ++ path
  | undecodable origin => "No image in " ++ origin
  | rowMissing tile => "No row for tile " ++ tile.name
  | rowEmpty tile => "Row without data for tile " ++ tile.name
  | severalRows tile => "Several rows for tile " ++ tile.name
  | queryFailed tile reason => "Query failed for tile " ++ tile.name ++ ": " ++ reason
  | comparedAbsent => "No tile to compare with"
  | comparedShapes => "Tiles differ in shape"
  | comparedEqual => "Tiles are equal"
  | comparedDifferent count => "Tiles differ in " ++ toString count ++ " samples"
  | listedMismatch => "Differing sample"
  | wroteConfig path => "Wrote configuration " ++ path
  | clearingWorkspace path => "Clearing earlier workspace " ++ path
  | removedWorkspace path => "Removed workspace " ++ path
  | cleanupFailed path => "Cannot remove workspace " ++ path
  | seeding kind => "Seeding " ++ kind.name
  | startingSeeder program => "Starting seeder " ++ program
  | seederTimedOut => "Seeder took too long"
  | seederFailed => "Seeder failed"
  | failedSeederOutput | seederOutput => "Seeder output"
  | failedSeederErrors | seederErrors => "Seeder errors"
  | seederFinished => "Seeder finished"
  | verifying kind tile => "Verifying tile " ++ tile.name ++ " in " ++ kind.name
  | wroteExpected tile => "Wrote expected tile " ++ tile.name
  | verificationFailed failed total =>
      toString failed ++ " of " ++ toString total ++ " tiles failed"
  | allMatch total => "All " ++ toString total ++ " tiles match"

/-- The events that are shown when the least urgent level shown is `shown`. -/
def eventsShown (shown : Level) (events : List Event) : List Event :=
  events.filter fun e => e.level.rank ≤ shown.rank

def countShown (shown level : Level) (events : List Event) : Nat :=
  (eventsShown shown events).countP fun e => e.level = level

end TileAudit
