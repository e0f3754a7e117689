/-!
# Tile databases

A database holds tables of tile rows. Table names are compared without regard to case.
-/

namespace TileAudit

inductive Cell where
  | null
  | text (value : String)
  | integer (value : Int)
  | real (value : Float)
  | blob (bytes : ByteArray)

inductive Column where
  | tileset
  | grid
  | x
  | y
  | z
  | data
  | dim
deriving DecidableEq, Repr

namespace Column

def name : Column → String
  | tileset => "tileset"
  | grid => "grid"
  | x => "x"
  | y => "y"
  | z => "z"
  | data => "data"
  | dim => "dim"

def all : List Column :=
  [tileset, grid, x, y, z, data, dim]

end Column

structure TileRow where
  tileset : Cell
  grid : Cell
  x : Cell
  y : Cell
  z : Cell
  data : Cell
  dim : Cell

def TileRow.cell (row : TileRow) : Column → Cell
  | .tileset => row.tileset
  | .grid => row.grid
  | .x => row.x
  | .y => row.y
  | .z => row.z
  | .data => row.data
  | .dim => row.dim

structure TileTable where
  name : String
  /-- The rows in the order in which the table yields them. -/
  rows : List TileRow

structure Database where
  tables : List TileTable

namespace Database

def empty : Database :=
  ⟨[]⟩

/-- The form of a table name that is compared. -/
def foldName (name : String) : List Char :=
  name.toList.map Char.toLower

def table? (db : Database) (name : String) : Option TileTable :=
  db.tables.find? fun t => foldName t.name = foldName name

end Database
end TileAudit
