import TileAudit.Database.Basic

/-!
# Selections

The queries that ask a table for one column of the rows in which some columns are equal to given
values. Not every table can be named in a query: its name has to be made of letters, digits and
underscores, must not begin with a digit, and must not be a reserved word.
-/

namespace TileAudit

inductive Binding where
  | text (value : String)
  | number (value : UInt32)

/-- Texts are equal letter by letter and numbers as numbers; nothing else is equal to a value. -/
def Cell.equals : Cell → Binding → Bool
  | .text stored, .text value => stored == value
  | .integer stored, .number value => stored == Int.ofNat value.toNat
  | .real stored, .number value => stored == Float.ofNat value.toNat
  | _, _ => false

namespace Database

def reservedWords : List String :=
  ["add", "all", "alter", "and", "as", "autoincrement", "between", "case", "check", "collate",
    "commit", "constraint", "create", "default", "deferrable", "delete", "distinct", "drop",
    "else", "escape", "except", "exists", "foreign", "from", "group", "having", "in", "index",
    "insert", "intersect", "into", "is", "isnull", "join", "limit", "not", "nothing", "notnull",
    "null", "on", "or", "order", "primary", "references", "returning", "select", "set", "table",
    "then", "to", "transaction", "union", "unique", "update", "using", "values", "when", "where"]

/-- A character that may stand in a table name: an ASCII letter, a digit or an underscore. -/
def isNameChar (c : Char) : Bool :=
  c.isAlphanum || c = '_'

def isPlainName (name : String) : Bool :=
  !name.isEmpty && name.toList.all isNameChar

def isQueryName (name : String) : Bool :=
  isPlainName name && !(name.toList.head?.any Char.isDigit) &&
    !reservedWords.contains (String.ofList (foldName name))

theorem isPlainName_tiles : isPlainName "tiles" = true := by
  decide +kernel

end Database

/-- The query for a column of those rows of a table in which some columns are equal to the
parameters: the first of these columns to the first parameter, and so on. -/
structure Selection where
  column : Column
  table : String
  keys : List Column

namespace Selection

/-- The conditions of a query from the parameter of a number on. -/
def conditionWords : Nat → List Column → List String
  | _, [] => []
  | n, [key] => [key.name, "=", "?" ++ toString n]
  | n, key :: rest => key.name :: "=" :: ("?" ++ toString n) :: "AND" :: conditionWords (n + 1) rest

def text (selection : Selection) : String :=
  String.intercalate " "
    (["SELECT", selection.column.name, "FROM", selection.table, "WHERE"] ++
      conditionWords 1 selection.keys)

def admits (selection : Selection) (bindings : List Binding) (row : TileRow) : Bool :=
  (selection.keys.zip bindings).all fun key => (row.cell key.1).equals key.2

end Selection
end TileAudit
