import TileAudit.Fault

/-!
# Kinds of tile stores

A cache keeps its tiles in files of their own or in the rows of a database.
-/

namespace TileAudit

inductive Backend where
  | disk
  | sqlite
deriving DecidableEq, Repr

namespace Backend

def name : Backend → String
  | disk => "disk"
  | sqlite => "sqlite"

def defaultTileset (kind : Backend) : String :=
  kind.name ++ "-tileset"

def all : List Backend :=
  [disk, sqlite]

def ofName (text : String) : Except ConfigFault Backend :=
  let lowered := String.ofList (text.toList.map Char.toLower)
  match all.find? fun kind => kind.name = lowered with
  | some kind => .ok kind
  | none => .error (.unknownBackend lowered)

end Backend

inductive Alignment where
  | left
  | right
  | centre
deriving DecidableEq, Repr

/-- A text filled up to a width. In the centre, an odd one out goes to the right. -/
def padTo (fill : Char) (alignment : Alignment) (width : Nat) (text : String) : String :=
  let missing := width - text.length
  let before :=
    match alignment with
    | .left => 0
    | .right => missing
    | .centre => missing / 2
  String.ofList
    (List.replicate before fill ++ text.toList ++ List.replicate (missing - before) fill)

end TileAudit
