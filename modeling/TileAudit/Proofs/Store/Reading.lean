import TileAudit.Proofs.Database.Queries
import TileAudit.Proofs.Effect.Run
import TileAudit.Proofs.FileTree.Contents
import TileAudit.Store.Basic

/-!
# What a store holds

The bytes that a store holds for a tile are the file at the tile's path, or the data of the first
row whose key is that of the tile. A tile that is read is these bytes decoded. Where there are none,
there is no tile, whatever the reason is.
-/

namespace TileAudit

/-!
## Rows of a tile

The query of a store compares five columns with its parameters. In this way it asks for the rows of
one tile, whose column is in `x`, whose row is in `y` and whose zoom level is in `z`.
-/

namespace TableStore

def selection (store : TableStore) : Selection where
  column := .data
  table := store.table
  keys := [.tileset, .grid, .x, .y, .z]

theorem text_selection (store : TableStore) : store.selection.text = store.queryText := by
  show Selection.text ⟨.data, store.table, [.tileset, .grid, .x, .y, .z]⟩ =
    "SELECT data FROM " ++ store.table ++
      " WHERE tileset = ?1 AND grid = ?2 AND x = ?3 AND y = ?4 AND z = ?5"
  generalize store.table = table
  apply String.toList_injective
  simp [Selection.text, Selection.conditionWords, Column.name, Nat.toDigits_of_lt_base,
    Nat.digitChar]

/-- A row about a tile: all five parts of its key are those that the store is asked for. -/
structure IsRowOf (store : TableStore) (tile : TileAddress) (row : TileRow) : Prop where
  tileset : row.tileset = .text store.tileset
  grid : row.grid = .text store.grid
  x : row.x.IsNumber tile.col
  y : row.y.IsNumber tile.row
  z : row.z.IsNumber tile.zoom

theorem admits_iff {store : TableStore} {tile : TileAddress} {row : TileRow} :
    store.selection.admits (store.bindings tile) row = true ↔ store.IsRowOf tile row := by
  have hadmits : store.selection.admits (store.bindings tile) row =
      (row.tileset.equals (.text store.tileset) && (row.grid.equals (.text store.grid) &&
        (row.x.equals (.number tile.col) && (row.y.equals (.number tile.row) &&
          (row.z.equals (.number tile.zoom) && true))))) := rfl
  rw [hadmits]
  simp only [Bool.and_eq_true, Cell.equals_text_iff, Cell.equals_number_iff, and_true]
  constructor
  · rintro ⟨htileset, hgrid, hx, hy, hz⟩
    exact ⟨htileset, hgrid, hx, hy, hz⟩
  · intro h
    exact ⟨h.tileset, h.grid, h.x, h.y, h.z⟩

instance (store : TableStore) (tile : TileAddress) (row : TileRow) :
    Decidable (store.IsRowOf tile row) :=
  decidable_of_iff _ admits_iff

def rowsOf (store : TableStore) (tile : TileAddress) (table : TileTable) : List TileRow :=
  table.rows.filter fun row => store.IsRowOf tile row

theorem mem_rowsOf {store : TableStore} {tile : TileAddress} {table : TileTable} {row : TileRow} :
    row ∈ store.rowsOf tile table ↔ row ∈ table.rows ∧ store.IsRowOf tile row := by
  rw [rowsOf, List.mem_filter, decide_eq_true_iff]

theorem rowsOf_eq_nil {store : TableStore} {tile : TileAddress} {table : TileTable}
    (h : ∀ row ∈ table.rows, ¬ store.IsRowOf tile row) : store.rowsOf tile table = [] := by
  apply List.eq_nil_iff_forall_not_mem.mpr
  intro row hrow
  exact h row (mem_rowsOf.mp hrow).1 (mem_rowsOf.mp hrow).2

theorem filter_admits (store : TableStore) (tile : TileAddress) (table : TileTable) :
    table.rows.filter (store.selection.admits (store.bindings tile)) =
      store.rowsOf tile table := by
  apply List.filter_congr
  intro row _
  rw [Bool.eq_iff_iff, admits_iff, decide_eq_true_iff]

/-!
## What a database says

What a database file is, and what its tables are, is for the library to say. A file that has a table
of the store's name answers with the rows of the tile; all other files give no bytes.
-/

section

variable [DatabaseEngine]

/-- The database file of a store holds this table under the name that the store asks for. -/
def Reaches (store : TableStore) (tree : FileTree) (cwd : Location) (table : TileTable) : Prop :=
  ∃ loc entry db, tree.lookup cwd store.database = .ok (loc, entry) ∧
    DatabaseEngine.database? entry = some db ∧ db.table? store.table = some table

/-- The bytes that a database file holds for a tile: there is a table of the store's name, and the
first of its rows about the tile holds the bytes. -/
def Holds (store : TableStore) (tree : FileTree) (cwd : Location) (tile : TileAddress)
    (bytes : ByteArray) : Prop :=
  ∃ table row rest, Database.isQueryName store.table = true ∧ store.Reaches tree cwd table ∧
    store.rowsOf tile table = row :: rest ∧ row.data = .blob bytes

/-- The ways in which a database file has no bytes for a tile. -/
inductive Lacks (store : TableStore) (tree : FileTree) (cwd : Location) (tile : TileAddress) :
    Prop where
  | noFile {kind : IoKind} (hfile : tree.lookup cwd store.database = .error kind)
  | directory {loc : Location} (hfile : tree.lookup cwd store.database = .ok (loc, .directory))
  | noDatabase {loc : Location} {entry : Entry}
      (hfile : tree.lookup cwd store.database = .ok (loc, entry))
      (hdb : DatabaseEngine.database? entry = none)
  /-- The table's name has no place in a query. -/
  | noQuery (hname : Database.isQueryName store.table = false)
  | noTable {loc : Location} {entry : Entry} {db : Database}
      (hfile : tree.lookup cwd store.database = .ok (loc, entry))
      (hdb : DatabaseEngine.database? entry = some db) (htable : db.table? store.table = none)
  | noRow {table : TileTable} (hreaches : store.Reaches tree cwd table)
      (hrows : ∀ row ∈ table.rows, ¬ store.IsRowOf tile row)
  /-- The first row about the tile holds nothing, a text or a number. -/
  | noBytes {table : TileTable} {row : TileRow} {rest : List TileRow}
      (hreaches : store.Reaches tree cwd table) (hrows : store.rowsOf tile table = row :: rest)
      (hdata : ∀ bytes, row.data ≠ .blob bytes)

variable {store : TableStore} {tile : TileAddress} {tree : FileTree} {cwd : Location}
  {table : TileTable} {bytes : ByteArray}

theorem Reaches.unique {table' : TileTable} (h : store.Reaches tree cwd table)
    (h' : store.Reaches tree cwd table') : table = table' := by
  rcases h with ⟨loc, entry, db, hfile, hdb, htable⟩
  rcases h' with ⟨loc', entry', db', hfile', hdb', htable'⟩
  cases hfile.symm.trans hfile'
  cases hdb.symm.trans hdb'
  cases htable.symm.trans htable'
  rfl

theorem Holds.not_lacks (hlawful : DatabaseEngine.Lawful) (h : store.Holds tree cwd tile bytes) :
    ¬ store.Lacks tree cwd tile := by
  rcases h with ⟨table, row, rest, hname, hreaches, hrows, hdata⟩
  intro hlacks
  have hthere := hreaches
  rcases hthere with ⟨loc, entry, db, hfile, hdb, htable⟩
  cases hlacks with
  | noFile hfile' => cases hfile.symm.trans hfile'
  | directory hfile' =>
      cases hfile.symm.trans hfile'
      cases hdb.symm.trans hlawful.directory
  | noDatabase hfile' hdb' =>
      cases hfile.symm.trans hfile'
      cases hdb.symm.trans hdb'
  | noQuery hname' => cases hname.symm.trans hname'
  | noTable hfile' hdb' htable' =>
      cases hfile.symm.trans hfile'
      cases hdb.symm.trans hdb'
      cases htable.symm.trans htable'
  | noRow hreaches' hrows' =>
      cases hreaches.unique hreaches'
      have hrow : row ∈ store.rowsOf tile table := by
        rw [hrows]
        exact List.mem_cons_self
      exact hrows' row (mem_rowsOf.mp hrow).1 (mem_rowsOf.mp hrow).2
  | noBytes hreaches' hrows' hdata' =>
      cases hreaches.unique hreaches'
      cases hrows.symm.trans hrows'
      exact hdata' bytes hdata

theorem holds_or_lacks (store : TableStore) (tree : FileTree) (cwd : Location)
    (tile : TileAddress) :
    (∃ bytes, store.Holds tree cwd tile bytes) ∨ store.Lacks tree cwd tile := by
  cases hfile : tree.lookup cwd store.database with
  | error kind => exact Or.inr (.noFile hfile)
  | ok found =>
      rcases found with ⟨loc, entry⟩
      cases hdb : DatabaseEngine.database? entry with
      | none => exact Or.inr (.noDatabase hfile hdb)
      | some db =>
          cases hname : Database.isQueryName store.table with
          | false => exact Or.inr (.noQuery hname)
          | true =>
              cases htable : db.table? store.table with
              | none => exact Or.inr (.noTable hfile hdb htable)
              | some table =>
                  have hreaches : store.Reaches tree cwd table := ⟨loc, entry, db, hfile, hdb, htable⟩
                  cases hrows : store.rowsOf tile table with
                  | nil =>
                      refine Or.inr (.noRow hreaches ?_)
                      intro row hrow hof
                      have hmem := mem_rowsOf.mpr ⟨hrow, hof⟩
                      rw [hrows] at hmem
                      cases hmem
                  | cons row rest =>
                      by_cases hblob : ∃ bytes, row.data = .blob bytes
                      · rcases hblob with ⟨bytes, hdata⟩
                        exact Or.inl ⟨bytes, table, row, rest, hname, hreaches, hrows, hdata⟩
                      · exact Or.inr (.noBytes hreaches hrows
                          fun bytes hdata => hblob ⟨bytes, hdata⟩)

end

/-!
## Bytes that are read

What the library answers is turned into bytes, into nothing or into a fault. The first row for a
tile decides alone; a table whose name has no place in a query is a fault that its rows do not
change.
-/

def answer : List TileRow → Except Fault (Option ByteArray)
  | [] => .ok none
  | row :: _ =>
      match row.data with
      | .null => .ok none
      | .blob bytes => .ok (some bytes)
      | .text _ | .integer _ | .real _ => .error (.store "invalid column type")

theorem answer_of_noBytes {row : TileRow} {rest : List TileRow}
    (h : ∀ bytes, row.data ≠ .blob bytes) :
    answer (row :: rest) = .ok none ∨ ∃ reason, answer (row :: rest) = .error (.store reason) := by
  cases hdata : row.data with
  | null => exact Or.inl (by rw [answer, hdata])
  | blob bytes => exact absurd hdata (h bytes)
  | text _ | integer _ | real _ => exact Or.inr ⟨_, by rw [answer, hdata]⟩

def blobOf : Option (Except String Found) → Except Fault (Option ByteArray)
  | none => .ok none
  | some (.error reason) => .error (.store reason)
  | some (.ok .noRow) => .ok none
  | some (.ok (.row data _)) => .ok data

theorem blobOf_foundIn (rows : List TileRow) :
    blobOf (some (foundIn (rows.map fun row => .ok [row.data]))) = answer rows := by
  cases rows with
  | nil => rfl
  | cons row rest =>
      cases hdata : row.data <;> cases rest <;> simp only [answer, hdata, List.map_cons] <;> rfl

section

variable [DatabaseEngine] {store : TableStore} {tile : TileAddress} {w : World} {table : TileTable}

theorem outcome_readBlob (store : TableStore) (tile : TileAddress) (w : World) :
    (Effect.run (store.readBlob tile) w).1 = blobOf (store.lookup tile w.tree w.cwd) := by
  unfold readBlob
  rw [Effect.run_bind_of_ok (Effect.run_inspect _ w)]
  cases store.lookup tile w.tree w.cwd with
  | none => rfl
  | some said =>
      cases said with
      | error reason => rfl
      | ok found =>
          cases found with
          | noRow => rfl
          | row data several => rfl

theorem lookup_of_file {loc : Location} {entry : Entry}
    (hfile : w.tree.lookup w.cwd store.database = .ok (loc, entry)) (tile : TileAddress) :
    store.lookup tile w.tree w.cwd =
      some
        ((DatabaseEngine.query entry store.selection.text (store.bindings tile)).bind foundIn) := by
  unfold lookup
  rw [hfile, text_selection]
  rfl

theorem outcome_readBlob_of_noFile {kind : IoKind}
    (hfile : w.tree.lookup w.cwd store.database = .error kind) (tile : TileAddress) :
    (Effect.run (store.readBlob tile) w).1 = .ok none := by
  rw [outcome_readBlob, lookup, hfile]
  rfl

theorem exists_outcome_readBlob_error {loc : Location} {entry : Entry}
    (hfile : w.tree.lookup w.cwd store.database = .ok (loc, entry))
    (h : ∃ reason, DatabaseEngine.query entry store.selection.text (store.bindings tile) =
      .error reason) :
    ∃ reason, (Effect.run (store.readBlob tile) w).1 = .error (.store reason) := by
  rcases h with ⟨reason, hreason⟩
  refine ⟨reason, ?_⟩
  rw [outcome_readBlob, lookup_of_file hfile, hreason]
  rfl

variable (hlawful : DatabaseEngine.Lawful)

include hlawful

theorem outcome_readBlob_of_reaches (h : store.Reaches w.tree w.cwd table)
    (hname : Database.isQueryName store.table = true) :
    (Effect.run (store.readBlob tile) w).1 = answer (store.rowsOf tile table) := by
  rcases h with ⟨loc, entry, db, hfile, hdb, htable⟩
  have hquery := hlawful.selects store.selection (store.bindings tile) hdb hname htable
    (List.cons_ne_nil _ _) rfl
  rw [filter_admits] at hquery
  rw [outcome_readBlob, lookup_of_file hfile, hquery, ← blobOf_foundIn]
  rfl

theorem exists_outcome_readBlob_of_badName (hname : Database.isQueryName store.table = false) :
    ∃ reason, ∀ (w : World) (table : TileTable) (tile : TileAddress),
      store.Reaches w.tree w.cwd table →
      (Effect.run (store.readBlob tile) w).1 = .error (.store reason) := by
  rcases hlawful.noName store.selection store.plain hname (List.cons_ne_nil _ _) with
    ⟨reason, hreason⟩
  refine ⟨reason, fun w table tile hreaches => ?_⟩
  rcases hreaches with ⟨loc, entry, db, hfile, hdb, _⟩
  rw [outcome_readBlob, lookup_of_file hfile, hreason entry db _ hdb]
  rfl

theorem exists_outcome_readBlob_of_badFile {loc : Location} {entry : Entry}
    (hfile : w.tree.lookup w.cwd store.database = .ok (loc, entry))
    (h : DatabaseEngine.database? entry = none ∨ Database.isQueryName store.table = false) :
    ∃ reason, (Effect.run (store.readBlob tile) w).1 = .error (.store reason) := by
  apply exists_outcome_readBlob_error hfile
  cases hdb : DatabaseEngine.database? entry with
  | none => exact hlawful.noDatabase _ _ hdb
  | some db =>
      rcases h with hnone | hname
      · cases hdb.symm.trans hnone
      · rcases hlawful.noName store.selection store.plain hname
          (List.cons_ne_nil _ _) with ⟨reason, hreason⟩
        exact ⟨reason, hreason entry db _ hdb⟩

theorem outcome_readBlob_of_lacks (h : store.Lacks w.tree w.cwd tile) :
    (Effect.run (store.readBlob tile) w).1 = .ok none ∨
      ∃ reason, (Effect.run (store.readBlob tile) w).1 = .error (.store reason) := by
  cases hfile : w.tree.lookup w.cwd store.database with
  | error kind => exact Or.inl (outcome_readBlob_of_noFile hfile tile)
  | ok found =>
      cases hname : Database.isQueryName store.table with
      | false => exact Or.inr (exists_outcome_readBlob_of_badFile hlawful hfile (Or.inr hname))
      | true =>
          cases h with
          | noFile hfile' => cases hfile.symm.trans hfile'
          | directory hfile' =>
              exact Or.inr (exists_outcome_readBlob_of_badFile hlawful hfile'
                (Or.inl hlawful.directory))
          | noDatabase hfile' hdb =>
              exact Or.inr (exists_outcome_readBlob_of_badFile hlawful hfile' (Or.inl hdb))
          | noQuery hname' => cases hname.symm.trans hname'
          | noTable hfile' hdb htable =>
              exact Or.inr (exists_outcome_readBlob_error hfile'
                (hlawful.noTable _ _ hdb hname htable (List.cons_ne_nil _ _)))
          | noRow hreaches hrows =>
              have hnone : store.rowsOf tile _ = [] := rowsOf_eq_nil hrows
              rw [outcome_readBlob_of_reaches hlawful hreaches hname, hnone]
              exact Or.inl rfl
          | noBytes hreaches hrows hdata =>
              rw [outcome_readBlob_of_reaches hlawful hreaches hname, hrows]
              exact answer_of_noBytes hdata

theorem outcome_readBlob_of_holds {bytes : ByteArray} (h : store.Holds w.tree w.cwd tile bytes) :
    (Effect.run (store.readBlob tile) w).1 = .ok (some bytes) := by
  rcases h with ⟨table, row, rest, hname, hreaches, hrows, hdata⟩
  rw [outcome_readBlob_of_reaches hlawful hreaches hname, hrows, answer, hdata]

end

end TableStore

namespace Store

theorem backend_ofBackend (kind : Backend) (cacheBase tileset grid : String) :
    (ofBackend kind cacheBase tileset grid).backend = kind := by
  cases kind with
  | disk => rfl
  | sqlite => rfl

section

variable [DatabaseEngine]

/-- The bytes that a store holds for a tile. -/
def Holds (store : Store) (tree : FileTree) (cwd : Location) (tile : TileAddress)
    (bytes : ByteArray) : Prop :=
  match store with
  | disk store => tree.readBytes cwd (store.tilePath tile) = .ok bytes
  | table store => store.Holds tree cwd tile bytes

/-- The ways in which a store has no bytes for a tile. -/
def Lacks (store : Store) (tree : FileTree) (cwd : Location) (tile : TileAddress) : Prop :=
  match store with
  | disk store => ∃ kind, tree.readBytes cwd (store.tilePath tile) = .error kind
  | table store => store.Lacks tree cwd tile

theorem holds_or_lacks (store : Store) (tree : FileTree) (cwd : Location) (tile : TileAddress) :
    (∃ bytes, store.Holds tree cwd tile bytes) ∨ store.Lacks tree cwd tile := by
  cases store with
  | disk store =>
      cases hread : tree.readBytes cwd (store.tilePath tile) with
      | ok bytes => exact Or.inl ⟨bytes, hread⟩
      | error kind => exact Or.inr ⟨kind, hread⟩
  | table store => exact TableStore.holds_or_lacks store tree cwd tile

theorem lacks_iff {store : Store} {tree : FileTree} {cwd : Location} {tile : TileAddress}
    (hlawful : DatabaseEngine.Lawful) :
    store.Lacks tree cwd tile ↔ ∀ bytes, ¬ store.Holds tree cwd tile bytes := by
  constructor
  · intro hlacks bytes hholds
    cases store with
    | disk store =>
        rcases hlacks with ⟨kind, hread⟩
        cases hread.symm.trans hholds
    | table store => exact TableStore.Holds.not_lacks hlawful hholds hlacks
  · intro hnone
    rcases store.holds_or_lacks tree cwd tile with ⟨bytes, hholds⟩ | hlacks
    · exact absurd hholds (hnone bytes)
    · exact hlacks

end

end Store

/-!
## Tiles read from a store

A read decodes the bytes that the store holds, and a read of rows forgets what the fault was. It is
settled by the file tree.
-/

section

variable [ImageCodec]

def decodedTile (bytes : ByteArray) : Except Fault (Option Tile) :=
  match ImageCodec.decode? bytes with
  | none => .ok none
  | some image => (Tile.ofImage image).map some

theorem outcome_decodeTile (origin : String) (bytes : ByteArray) (w : World) :
    (Effect.run (decodeTile origin bytes) w).1 = decodedTile bytes := by
  unfold decodeTile decodedTile
  cases ImageCodec.decode? bytes with
  | none => rfl
  | some image =>
      dsimp only
      rw [Effect.run_bind, Effect.run_ofExcept]
      cases Tile.ofImage image with
      | error fault => rfl
      | ok tile => rfl

variable {tile : TileAddress} {bytes : ByteArray} {w : World}

theorem DiskStore.outcome_readTile_of_ok {store : DiskStore}
    (h : w.tree.readBytes w.cwd (store.tilePath tile) = .ok bytes) :
    (Effect.run (store.readTile tile) w).1 = decodedTile bytes := by
  unfold readTile
  rw [Effect.run_bind_of_ok (Effect.run_tell _ w), Effect.run_bind_of_ok (Effect.run_inspect _ _)]
  simp only [h]
  exact outcome_decodeTile _ bytes _

theorem DiskStore.outcome_readTile_of_error {store : DiskStore} {kind : IoKind}
    (h : w.tree.readBytes w.cwd (store.tilePath tile) = .error kind) :
    (Effect.run (store.readTile tile) w).1 = .ok none := by
  unfold readTile
  rw [Effect.run_bind_of_ok (Effect.run_tell _ w), Effect.run_bind_of_ok (Effect.run_inspect _ _)]
  simp only [h]
  cases kind <;> rfl

variable [DatabaseEngine]

def tileOf : Except Fault (Option ByteArray) → Except Fault (Option Tile)
  | .ok (some bytes) => decodedTile bytes
  | .ok none => .ok none
  | .error _ => .ok none

theorem TableStore.outcome_readTile (store : TableStore) (tile : TileAddress) (w : World) :
    (Effect.run (store.readTile tile) w).1 = tileOf (Effect.run (store.readBlob tile) w).1 := by
  have hblob : (Effect.run (store.readBlob tile)
      ⟨w.tree, w.cwd, w.events ++ [.readingTile .sqlite tile]⟩).1 =
        (Effect.run (store.readBlob tile) w).1 := by
    rw [outcome_readBlob, outcome_readBlob]
  unfold readTile
  rw [Effect.run_bind_of_ok (Effect.run_tell _ w), Effect.run_bind_of_ok (Effect.run_attempt _ _),
    hblob]
  cases (Effect.run (store.readBlob tile) w).1 with
  | error fault => rfl
  | ok found =>
      cases found with
      | none => rfl
      | some bytes => exact outcome_decodeTile _ bytes _

namespace Store

variable {store : Store}

theorem outcome_readTile_eq {later : World} (htree : later.tree = w.tree)
    (hcwd : later.cwd = w.cwd) :
    (Effect.run (store.readTile tile) later).1 = (Effect.run (store.readTile tile) w).1 := by
  cases store with
  | disk store =>
      show (Effect.run (store.readTile tile) later).1 = (Effect.run (store.readTile tile) w).1
      cases hread : w.tree.readBytes w.cwd (store.tilePath tile) with
      | ok bytes =>
          have hlater : later.tree.readBytes later.cwd (store.tilePath tile) = .ok bytes := by
            rwa [htree, hcwd]
          rw [DiskStore.outcome_readTile_of_ok hread, DiskStore.outcome_readTile_of_ok hlater]
      | error kind =>
          have hlater : later.tree.readBytes later.cwd (store.tilePath tile) = .error kind := by
            rwa [htree, hcwd]
          rw [DiskStore.outcome_readTile_of_error hread, DiskStore.outcome_readTile_of_error hlater]
  | table store =>
      show (Effect.run (store.readTile tile) later).1 = (Effect.run (store.readTile tile) w).1
      rw [TableStore.outcome_readTile, TableStore.outcome_readTile, TableStore.outcome_readBlob,
        TableStore.outcome_readBlob, htree, hcwd]

variable (hlawful : DatabaseEngine.Lawful)

include hlawful

theorem outcome_of_holds (h : store.Holds w.tree w.cwd tile bytes) :
    (Effect.run (store.readTile tile) w).1 = decodedTile bytes := by
  cases store with
  | disk store => exact DiskStore.outcome_readTile_of_ok h
  | table store =>
      show (Effect.run (store.readTile tile) w).1 = _
      rw [TableStore.outcome_readTile, TableStore.outcome_readBlob_of_holds hlawful h]
      rfl

theorem outcome_of_lacks (h : store.Lacks w.tree w.cwd tile) :
    (Effect.run (store.readTile tile) w).1 = .ok none := by
  cases store with
  | disk store =>
      rcases h with ⟨kind, hread⟩
      exact DiskStore.outcome_readTile_of_error hread
  | table store =>
      show (Effect.run (store.readTile tile) w).1 = _
      rw [TableStore.outcome_readTile]
      rcases TableStore.outcome_readBlob_of_lacks hlawful h with hnone | ⟨reason, hreason⟩
      · rw [hnone]
        rfl
      · rw [hreason]
        rfl

end Store

end

end TileAudit
