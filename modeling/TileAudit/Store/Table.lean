import TileAudit.Database.Engine
import TileAudit.Effect

/-!
# Tiles in the rows of a database

A store looks a tile up in a table of a database file. What goes wrong with the query, and a first
row that holds something other than bytes, is told as a fault. Further rows are not looked at, but
there has to be a way to read the second one.
-/

namespace TileAudit

def defaultDatabaseFile : String := "cache.sqlite"

structure TableStore where
  database : String
  tileset : String
  grid : String
  table : String := "tiles"
  plain : Database.isPlainName table = true := by exact Database.isPlainName_tiles
deriving DecidableEq, Repr

namespace TableStore

def withTable (store : TableStore) (table : String) : Except ConfigFault TableStore :=
  if h : Database.isPlainName table = true then .ok { store with table := table, plain := h }
  else .error (.invalidTable table)

def queryText (store : TableStore) : String :=
  "SELECT data FROM " ++ store.table ++
    " WHERE tileset = ?1 AND grid = ?2 AND x = ?3 AND y = ?4 AND z = ?5"

def bindings (store : TableStore) (tile : TileAddress) : List Binding :=
  [.text store.tileset, .text store.grid, .number tile.col, .number tile.row, .number tile.zoom]

inductive Found where
  | noRow
  /-- The bytes of the first row, if it holds any, and whether there is another row. -/
  | row (data : Option ByteArray) (several : Bool)

/-- The bytes in the first column of a row. -/
def dataOf : List Cell → Except String (Option ByteArray)
  | .null :: _ => .ok none
  | .blob bytes :: _ => .ok (some bytes)
  | _ :: _ => .error "invalid column type"
  | [] => .error "invalid column index"

/-- What the rows that answer a query give. -/
def foundIn : List (Except String (List Cell)) → Except String Found
  | [] => .ok .noRow
  | first :: rest => do
      let data ← dataOf (← first)
      match rest with
      | [] => return .row data false
      | .ok _ :: _ => return .row data true
      | .error reason :: _ => .error reason

variable [DatabaseEngine]

/-- What the database file says about a tile; the outer option tells whether there is a file. -/
def lookup (store : TableStore) (tile : TileAddress) (tree : FileTree) (cwd : Location) :
    Option (Except String Found) :=
  match tree.lookup cwd store.database with
  | .error _ => none
  | .ok (_, entry) =>
      some do
        let rows ← DatabaseEngine.query entry store.queryText (store.bindings tile)
        foundIn rows

def readBlob (store : TableStore) (tile : TileAddress) : Effect (Option ByteArray) := do
  match ← Effect.inspect (store.lookup tile) with
  | none =>
      Effect.tell (.tileFileMissing store.database)
      return none
  | some (.error reason) => Effect.ofExcept (.error (.store reason))
  | some (.ok .noRow) =>
      Effect.tell (.rowMissing tile)
      return none
  | some (.ok (.row data several)) =>
      Effect.tellAll (if several then [.severalRows tile] else [])
      Effect.tellAll (if data.isNone then [.rowEmpty tile] else [])
      return data

def identifier (store : TableStore) : String :=
  store.database ++ ":" ++ store.tileset ++ "/" ++ store.grid

end TableStore
end TileAudit
