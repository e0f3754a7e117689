import TileAudit.Image.File
import TileAudit.Proofs.Database.Tables
import TileAudit.Proofs.Store.Reading
import TileAudit.Proofs.Tile.Images
import TileAudit.Tiff.Picture

/-!
# Outcomes of reading a tile

Stores of both kinds decode the bytes that they hold in one way. The only fault of a read is an
image that can be no tile, told by its number of channels or by its depth. Everything else that
keeps a store from its bytes gives no tile.
-/

namespace TileAudit

section

variable [ImageCodec] {bytes : ByteArray} {image : Image}

theorem decodedTile_of_undecodable (h : ImageCodec.decode? bytes = none) :
    decodedTile bytes = .ok none := by
  rw [decodedTile, h]

theorem decodedTile_of_refused (himage : ImageCodec.decode? bytes = some image)
    (h : ¬ image.IsColour8) : decodedTile bytes = .error image.refusal := by
  rw [decodedTile, himage]
  dsimp only
  rw [Tile.ofImage_eq_error h]
  rfl

theorem exists_decodedTile_of_colour (himage : ImageCodec.decode? bytes = some image)
    (h : image.IsColour8) :
    ∃ read : Tile, decodedTile bytes = .ok (some read) ∧ read.IsMadeFrom image := by
  rcases Tile.exists_ofImage h with ⟨read, hread, hmade⟩
  refine ⟨read, ?_, hmade⟩
  rw [decodedTile, himage]
  dsimp only
  rw [hread]
  rfl

theorem exists_of_decodedTile_error {fault : Fault} (h : decodedTile bytes = .error fault) :
    ∃ image, ImageCodec.decode? bytes = some image ∧ ¬ image.IsColour8 ∧
      fault = image.refusal := by
  cases himage : ImageCodec.decode? bytes with
  | none => cases (decodedTile_of_undecodable himage).symm.trans h
  | some image =>
      by_cases hcolour : image.IsColour8
      · rcases exists_decodedTile_of_colour himage hcolour with ⟨read, hread, _⟩
        cases hread.symm.trans h
      · cases (decodedTile_of_refused himage hcolour).symm.trans h
        exact ⟨image, rfl, hcolour, rfl⟩

end

namespace TableStore

variable [DatabaseEngine] {store : TableStore} {tree : FileTree} {cwd : Location}
  {tile : TileAddress} {bytes : ByteArray}

/-- One row of the store's table is about a tile, and it holds the bytes. -/
def HoldsOnly (store : TableStore) (tree : FileTree) (cwd : Location) (tile : TileAddress)
    (bytes : ByteArray) : Prop :=
  ∃ table front row back, store.Reaches tree cwd table ∧ table.rows = front ++ row :: back ∧
    store.IsRowOf tile row ∧ (∀ other ∈ front ++ back, ¬ store.IsRowOf tile other) ∧
    row.data = .blob bytes

theorem HoldsOnly.holds (h : store.HoldsOnly tree cwd tile bytes)
    (hname : Database.isQueryName store.table = true) : store.Holds tree cwd tile bytes := by
  rcases h with ⟨table, front, row, back, hreaches, hrows, hrow, hothers, hdata⟩
  have hfront : ∀ other ∈ front, ¬ decide (store.IsRowOf tile other) = true := by
    intro other hmem
    rw [decide_eq_true_iff]
    exact hothers other (List.mem_append_left back hmem)
  have hback : ∀ other ∈ back, ¬ decide (store.IsRowOf tile other) = true := by
    intro other hmem
    rw [decide_eq_true_iff]
    exact hothers other (List.mem_append_right front hmem)
  have hsingle : store.rowsOf tile table = [row] := by
    rw [rowsOf, hrows, List.filter_append, List.filter_eq_nil_iff.mpr hfront, List.nil_append,
      List.filter_cons, if_pos (decide_eq_true hrow), List.filter_eq_nil_iff.mpr hback]
  exact ⟨table, row, [], hname, hreaches, hsingle, hdata⟩

end TableStore

/-!
## Outcomes

A read comes to no tile, to a tile or to a fault by what the store holds. Whatever the libraries
say, it is no fault but that of an image.
-/

namespace Store

section

variable [ImageCodec] [DatabaseEngine] {store : Store} {tile : TileAddress} {w : World}

theorem exists_of_outcome_error {fault : Fault}
    (h : (Effect.run (store.readTile tile) w).1 = .error fault) :
    ∃ bytes image, ImageCodec.decode? bytes = some image ∧ ¬ image.IsColour8 ∧
      fault = image.refusal := by
  cases store with
  | disk store =>
      change (Effect.run (store.readTile tile) w).1 = .error fault at h
      cases hread : w.tree.readBytes w.cwd (store.tilePath tile) with
      | error kind => cases (DiskStore.outcome_readTile_of_error hread).symm.trans h
      | ok bytes =>
          rw [DiskStore.outcome_readTile_of_ok hread] at h
          exact ⟨bytes, exists_of_decodedTile_error h⟩
  | table store =>
      change (Effect.run (store.readTile tile) w).1 = .error fault at h
      rw [TableStore.outcome_readTile] at h
      cases hblob : (Effect.run (store.readBlob tile) w).1 with
      | error reason =>
          rw [hblob] at h
          cases h
      | ok found =>
          rw [hblob] at h
          cases found with
          | none => cases h
          | some bytes => exact ⟨bytes, exists_of_decodedTile_error h⟩

variable {bytes : ByteArray} {image : Image} (hlawful : DatabaseEngine.Lawful)

include hlawful

theorem outcome_of_undecodable (h : store.Holds w.tree w.cwd tile bytes)
    (himage : ImageCodec.decode? bytes = none) :
    (Effect.run (store.readTile tile) w).1 = .ok none := by
  rw [outcome_of_holds hlawful h, decodedTile_of_undecodable himage]

theorem outcome_of_refused (h : store.Holds w.tree w.cwd tile bytes)
    (himage : ImageCodec.decode? bytes = some image) (hcolour : ¬ image.IsColour8) :
    (Effect.run (store.readTile tile) w).1 = .error image.refusal := by
  rw [outcome_of_holds hlawful h, decodedTile_of_refused himage hcolour]

theorem exists_outcome_of_colour (h : store.Holds w.tree w.cwd tile bytes)
    (himage : ImageCodec.decode? bytes = some image) (hcolour : image.IsColour8) :
    ∃ read : Tile, (Effect.run (store.readTile tile) w).1 = .ok (some read) ∧
      read.IsMadeFrom image := by
  rw [outcome_of_holds hlawful h]
  exact exists_decodedTile_of_colour himage hcolour

theorem outcome_cases (store : Store) (tile : TileAddress) (w : World) :
    ((Effect.run (store.readTile tile) w).1 = .ok none ∧
      (store.Lacks w.tree w.cwd tile ∨
        ∃ bytes, store.Holds w.tree w.cwd tile bytes ∧ ImageCodec.decode? bytes = none)) ∨
    (∃ bytes image, store.Holds w.tree w.cwd tile bytes ∧ ImageCodec.decode? bytes = some image ∧
      image.IsColour8 ∧ ∃ read : Tile, (Effect.run (store.readTile tile) w).1 = .ok (some read) ∧
        read.IsMadeFrom image) ∨
    ∃ bytes image, store.Holds w.tree w.cwd tile bytes ∧ ImageCodec.decode? bytes = some image ∧
      ¬ image.IsColour8 ∧ (Effect.run (store.readTile tile) w).1 = .error image.refusal := by
  rcases holds_or_lacks store w.tree w.cwd tile with ⟨bytes, hholds⟩ | hlacks
  · cases himage : ImageCodec.decode? bytes with
    | none =>
        exact Or.inl ⟨outcome_of_undecodable hlawful hholds himage, Or.inr ⟨bytes, hholds, himage⟩⟩
    | some image =>
        by_cases hcolour : image.IsColour8
        · exact Or.inr (Or.inl ⟨bytes, image, hholds, himage, hcolour,
            exists_outcome_of_colour hlawful hholds himage hcolour⟩)
        · exact Or.inr (Or.inr ⟨bytes, image, hholds, himage, hcolour,
            outcome_of_refused hlawful hholds himage hcolour⟩)
  · exact Or.inl ⟨outcome_of_lacks hlawful hlacks, Or.inl hlacks⟩

theorem outcome_error_iff {fault : Fault} :
    (Effect.run (store.readTile tile) w).1 = .error fault ↔
      ∃ bytes image, store.Holds w.tree w.cwd tile bytes ∧ ImageCodec.decode? bytes = some image ∧
        ¬ image.IsColour8 ∧ fault = image.refusal := by
  constructor
  · intro hfault
    rcases outcome_cases hlawful store tile w with ⟨hnone, _⟩ | hread | hrefused
    · cases hnone.symm.trans hfault
    · rcases hread with ⟨_, _, _, _, _, read, hread, _⟩
      cases hread.symm.trans hfault
    · rcases hrefused with ⟨bytes, image, hholds, himage, hcolour, hrefused⟩
      cases hrefused.symm.trans hfault
      exact ⟨bytes, image, hholds, himage, hcolour, rfl⟩
  · rintro ⟨bytes, image, hholds, himage, hcolour, rfl⟩
    exact outcome_of_refused hlawful hholds himage hcolour

theorem outcome_none_iff :
    (Effect.run (store.readTile tile) w).1 = .ok none ↔
      store.Lacks w.tree w.cwd tile ∨
        ∃ bytes, store.Holds w.tree w.cwd tile bytes ∧ ImageCodec.decode? bytes = none := by
  constructor
  · intro hnone
    rcases outcome_cases hlawful store tile w with ⟨_, hmissing⟩ | hread | hrefused
    · exact hmissing
    · rcases hread with ⟨_, _, _, _, _, read, hread, _⟩
      cases hread.symm.trans hnone
    · rcases hrefused with ⟨_, _, _, _, _, hrefused⟩
      cases hrefused.symm.trans hnone
  · rintro (hlacks | ⟨bytes, hholds, himage⟩)
    · exact outcome_of_lacks hlawful hlacks
    · exact outcome_of_undecodable hlawful hholds himage

theorem isMadeFrom_of_outcome {read : Tile}
    (h : (Effect.run (store.readTile tile) w).1 = .ok (some read)) :
    ∃ bytes image, store.Holds w.tree w.cwd tile bytes ∧ ImageCodec.decode? bytes = some image ∧
      image.IsColour8 ∧ read.IsMadeFrom image := by
  rcases outcome_cases hlawful store tile w with ⟨hnone, _⟩ | hmade | hrefused
  · cases hnone.symm.trans h
  · rcases hmade with ⟨bytes, image, hholds, himage, hcolour, read', hread, hmade⟩
    cases hread.symm.trans h
    exact ⟨bytes, image, hholds, himage, hcolour, hmade⟩
  · rcases hrefused with ⟨_, _, _, _, _, hrefused⟩
    cases hrefused.symm.trans h

end

def greyFile : ByteArray :=
  Tiff.writePicture ⟨⟨.grey, .eight⟩, 1, 1, ⟨#[7]⟩, rfl⟩

def greyFiles : DiskStore :=
  { base := "/", backendName := "", tileset := "set", grid := "grid", layout := .worldWind }

def greyFileTree : FileTree :=
  ((FileTree.empty.insert ["0"] .directory).insert ["0", "0000"] .directory).insert
    ["0", "0000", "0000_0000.png"] (.file (.bytes greyFile) false)

def greyRow : TileRow :=
  { tileset := .text "set", grid := .text "grid", x := .integer 0, y := .integer 0, z := .integer 0,
    data := .blob greyFile, dim := .null }

def greyRowTree (table : String) : FileTree :=
  FileTree.empty.insert ["cache.sqlite"] (.file (.database ⟨[⟨table, [greyRow]⟩]⟩) false)

def greyRows (table : String) (h : Database.isPlainName table = true) : TableStore :=
  { database := "/cache.sqlite", tileset := "set", grid := "grid", table := table, plain := h }

theorem readBytes_greyFileTree :
    greyFileTree.readBytes [] (greyFiles.tilePath ⟨0, 0, 0⟩) = .ok greyFile := by
  rfl

theorem lookup_greyRowTree (table : String) :
    (greyRowTree table).lookup [] "/cache.sqlite" =
      .ok (["cache.sqlite"], .file (.database ⟨[⟨table, [greyRow]⟩]⟩) false) := by
  rfl

theorem reaches_greyRowTree {table : String} (h : Database.isPlainName table = true) :
    (greyRows table h).Reaches (greyRowTree table) [] ⟨table, [greyRow]⟩ := by
  refine ⟨_, _, _, lookup_greyRowTree table, rfl, ?_⟩
  simp [Database.table?, greyRows]

theorem holdsOnly_greyRowTree {table : String} (h : Database.isPlainName table = true) :
    (greyRows table h).HoldsOnly (greyRowTree table) [] ⟨0, 0, 0⟩ greyFile := by
  refine ⟨_, [], greyRow, [], reaches_greyRowTree h, rfl, ?_, ?_, rfl⟩
  · exact ⟨rfl, rfl, Or.inl rfl, Or.inl rfl, Or.inl rfl⟩
  · intro other hother
    cases hother

theorem format_greyFile :
    (ImageCodec.decode? greyFile).map (fun image => image.format) = some ⟨.grey, .eight⟩ := by
  decide +kernel

theorem exists_greyFile_image :
    ∃ image, ImageCodec.decode? greyFile = some image ∧ ¬ image.IsColour8 ∧
      image.refusal = .unexpectedBandCount 1 := by
  have hformat := format_greyFile
  cases himage : ImageCodec.decode? greyFile with
  | none =>
      rw [himage] at hformat
      cases hformat
  | some image =>
      rw [himage] at hformat
      have hgrey : image.format = ⟨.grey, .eight⟩ := Option.some.inj hformat
      refine ⟨image, rfl, ?_, ?_⟩
      · rintro ⟨_, hchannels⟩
        rw [hgrey] at hchannels
        rcases hchannels with hrgb | hrgba
        · cases hrgb
        · cases hrgba
      · rw [Image.refusal, hgrey]
        rfl

end Store
end TileAudit
