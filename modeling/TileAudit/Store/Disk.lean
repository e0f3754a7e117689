import TileAudit.FileTree.PathText
import TileAudit.Grid.Address
import TileAudit.Text.Numeral

/-!
# Tiles in files of their own

A store keeps each tile in a file whose path is computed from the tile's address. In the default
layout the column and the row are cut into groups of three digits, most significant first.
-/

namespace TileAudit

inductive DiskLayout where
  /-- Three groups of digits for the column and three for the row. -/
  | tileCache
  /-- Hexadecimal rows and columns under a level. -/
  | arcGis
  /-- Decimal rows, and a file named for row and column. -/
  | worldWind
deriving DecidableEq, Repr

structure DiskStore where
  base : String
  /-- The name of the directory that the store's tilesets lie in. -/
  backendName : String
  tileset : String
  grid : String
  /-- The suffix of the tile files, without a point before it. -/
  extension : String := "png"
  layout : DiskLayout := .tileCache
deriving DecidableEq, Repr

namespace DiskStore

/-- The store with another suffix; points at its front are dropped. -/
def withExtension (store : DiskStore) (extension : String) : DiskStore :=
  { store with extension := String.ofList (extension.toList.dropWhile (· = '.')) }

def tilesetDir (store : DiskStore) : String :=
  PathText.join (PathText.join (PathText.join store.base store.backendName) store.tileset)
    store.grid

/-- A number cut into three groups of digits: millions, thousands and ones. -/
def digitGroups (n : Nat) : String × String × String :=
  (Numeral.decimal 3 (n / 1000000), Numeral.decimal 3 (n / 1000 % 1000), Numeral.decimal 3 (n % 1000))

def tileNames (store : DiskStore) (tile : TileAddress) : List String :=
  let zoom := tile.zoom.toNat
  let x := tile.col.toNat
  let y := tile.row.toNat
  match store.layout with
  | .tileCache =>
      let (x1, x2, x3) := digitGroups x
      let (y1, y2, y3) := digitGroups y
      [Numeral.decimal 2 zoom, x1, x2, x3, y1, y2, y3 ++ "." ++ store.extension]
  | .arcGis =>
      ["L" ++ Numeral.decimal 2 zoom, "R" ++ Numeral.hexadecimal 8 y,
        "C" ++ Numeral.hexadecimal 8 x ++ "." ++ store.extension]
  | .worldWind =>
      [Numeral.decimal 1 zoom, Numeral.decimal 4 y,
        Numeral.decimal 4 y ++ "_" ++ Numeral.decimal 4 x ++ "." ++ store.extension]

def layoutDir (store : DiskStore) : String :=
  match store.layout with
  | .tileCache | .arcGis => store.tilesetDir
  | .worldWind => PathText.join store.base store.backendName

def tilePath (store : DiskStore) (tile : TileAddress) : String :=
  (store.tileNames tile).foldl PathText.join store.layoutDir

def identifier (store : DiskStore) : String :=
  store.tilesetDir

end DiskStore
end TileAudit
