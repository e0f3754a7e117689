import TileAudit.Text.Numeral
import TileAudit.Text.Quoted

/-!
# Tile addresses

A tile is named by its zoom level, column and row. An argument writes an address as
three numerals between slashes; a report writes it with a letter before each number.
-/

namespace TileAudit

structure TileAddress where
  zoom : UInt32
  col : UInt32
  row : UInt32
deriving DecidableEq, Repr

namespace TileAddress

def name (tile : TileAddress) : String :=
  "Z" ++ toString tile.zoom.toNat ++ "-X" ++ toString tile.col.toNat ++ "-Y" ++
    toString tile.row.toNat

def argument (tile : TileAddress) : String :=
  toString tile.zoom.toNat ++ "/" ++ toString tile.col.toNat ++ "/" ++ toString tile.row.toNat

inductive Fault where
  /-- There are not three parts. -/
  | shape (argument : String)
  /-- A part is no numeral. -/
  | part (text : String) (fault : Numeral.Fault)
deriving DecidableEq, Repr

def Fault.message : Fault → String
  | .shape argument => "expected z/x/y, got " ++ Text.quoted argument
  | .part text fault => Text.quoted text ++ ": " ++ fault.message

def splitOnChar (separator : Char) : List Char → List (List Char)
  | [] => [[]]
  | c :: rest =>
      if c = separator then [] :: splitOnChar separator rest
      else
        match splitOnChar separator rest with
        | [] => [[c]]
        | piece :: pieces => (c :: piece) :: pieces

def readPart (part : List Char) : Except Fault UInt32 :=
  match Numeral.readNat Numeral.limit32 part with
  | .ok n => .ok (UInt32.ofNat n)
  | .error fault => .error (.part (String.ofList part) fault)

/-- Reads an address. Of several bad parts the first is reported. -/
def ofArgument (s : String) : Except Fault TileAddress :=
  match splitOnChar '/' s.toList with
  | [z, x, y] => do
      let zoom ← readPart z
      let col ← readPart x
      let row ← readPart y
      return ⟨zoom, col, row⟩
  | _ => .error (.shape s)

end TileAddress
end TileAudit
