import TileAudit.Image.Codec
import TileAudit.Store.Disk
import TileAudit.Store.Table
import TileAudit.Tile.Normalize

/-!
# Tile stores

Reading a tile from a store of either kind. A tile that is missing, that cannot be read, or whose
bytes are no image gives no tile. Only an image that cannot be a tile is a fault.
-/

namespace TileAudit

/-- Stored bytes as a tile. -/
def decodeTile [ImageCodec] (origin : String) (bytes : ByteArray) : Effect (Option Tile) := do
  match ImageCodec.decode? bytes with
  | none =>
      Effect.tell (.undecodable origin)
      return none
  | some image =>
      let tile ← Effect.ofExcept (Tile.ofImage image)
      return some tile

def DiskStore.readTile [ImageCodec] (store : DiskStore) (tile : TileAddress) :
    Effect (Option Tile) := do
  let path := store.tilePath tile
  Effect.tell (.readingTile .disk tile)
  match ← Effect.inspect fun tree cwd => tree.readBytes cwd path with
  | .ok bytes => decodeTile path bytes
  | .error .notFound =>
      Effect.tell (.tileFileMissing path)
      return none
  | .error _ =>
      Effect.tell (.tileFileUnreadable path)
      return none

def TableStore.readTile [ImageCodec] [DatabaseEngine] (store : TableStore) (tile : TileAddress) :
    Effect (Option Tile) := do
  Effect.tell (.readingTile .sqlite tile)
  match ← Effect.attempt (store.readBlob tile) with
  | .ok (some bytes) => decodeTile (store.database ++ "#" ++ tile.name) bytes
  | .ok none => return none
  | .error fault =>
      Effect.tell (.queryFailed tile fault.message)
      return none

inductive Store where
  | disk (store : DiskStore)
  | table (store : TableStore)
deriving DecidableEq, Repr

namespace Store

def ofBackend (kind : Backend) (cacheBase tileset grid : String) : Store :=
  match kind with
  | .disk =>
      .disk { base := cacheBase, backendName := kind.name, tileset := tileset, grid := grid }
  | .sqlite =>
      .table
        { database := PathText.join cacheBase defaultDatabaseFile, tileset := tileset, grid := grid }

def backend : Store → Backend
  | disk _ => .disk
  | table _ => .sqlite

def identifier : Store → String
  | disk store => store.identifier
  | table store => store.identifier

def readTile [ImageCodec] [DatabaseEngine] (store : Store) (tile : TileAddress) :
    Effect (Option Tile) :=
  match store with
  | disk store => store.readTile tile
  | table store => store.readTile tile

end Store
end TileAudit
