import TileAudit.Database.Engine
import TileAudit.Grid.Address

/-!
# Tables of tiles as databases

A library for databases that understands selections only. A table with a key keeps the rows of a
tile in the order of their dimension; one without keeps them as they were inserted.
-/

namespace TileAudit
namespace Database

/-- The database with a table of that name; one that is there already stays as it is. -/
def withTable (db : Database) (name : String) : Database :=
  if (db.table? name).isSome then db else ⟨db.tables ++ [⟨name, []⟩]⟩

def insert (db : Database) (name : String) (keyed : Bool) (rows : List TileRow) : Database :=
  let dimension (row : TileRow) : String :=
    match row.dim with
    | .text value => value
    | _ => ""
  let arranged (rows : List TileRow) : List TileRow :=
    if keyed then rows.mergeSort fun a b => dimension a ≤ dimension b else rows
  ⟨db.tables.map fun t =>
    if foldName t.name = foldName name then { t with rows := arranged (t.rows ++ rows) } else t⟩

end Database

namespace Selection

def columnOf? (name : String) : Option Column :=
  Column.all.find? fun column => column.name = name

/-- The columns that conditions name, from the parameter of a number on. -/
def keysOf? : Nat → List String → Option (List Column)
  | n, name :: sign :: parameter :: rest => do
      guard (sign = "=" ∧ parameter = "?" ++ toString n)
      let key ← columnOf? name
      match rest with
      | [] => return [key]
      | word :: rest =>
          guard (word = "AND")
          return key :: (← keysOf? (n + 1) rest)
  | _, _ => none

def ofText? (text : String) : Option Selection :=
  match (TileAddress.splitOnChar ' ' text.toList).map String.ofList with
  | "SELECT" :: column :: "FROM" :: table :: "WHERE" :: conditions => do
      return ⟨← columnOf? column, table, ← keysOf? 1 conditions⟩
  | _ => none

end Selection

namespace Database

def databaseOf? : Entry → Option Database
  | .directory => none
  | .file content _ => content.database?

def select (db : Database) (selection : Selection) (bindings : List Binding) :
    Except String (List (Except String (List Cell))) :=
  if !isQueryName selection.table then .error ("near \"" ++ selection.table ++ "\": syntax error")
  else if selection.keys.length ≠ bindings.length then .error "wrong number of parameters"
  else
    match db.table? selection.table with
    | none => .error ("no such table: " ++ selection.table)
    | some table =>
        .ok ((table.rows.filter (selection.admits bindings)).map fun row =>
          .ok [row.cell selection.column])

def ask (entry : Entry) (text : String) (bindings : List Binding) :
    Except String (List (Except String (List Cell))) :=
  match databaseOf? entry with
  | none => .error "file is not a database"
  | some db =>
      match Selection.ofText? text with
      | none => .error "syntax error"
      | some selection => db.select selection bindings

end Database

instance : DatabaseEngine where
  database? := Database.databaseOf?
  query := Database.ask

end TileAudit
