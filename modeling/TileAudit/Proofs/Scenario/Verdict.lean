import TileAudit.Image.File
import TileAudit.Proofs.Database.Tables
import TileAudit.Proofs.Sampling.Room
import TileAudit.Proofs.Scenario.Preparation
import TileAudit.Proofs.Scenario.Progress
import TileAudit.Proofs.Store.Reading
import TileAudit.Proofs.Tile.Images

/-!
# Verdicts

What checking a tile of a prepared scenario tells. The raster file gives the tile that is expected,
and the store gives an image, another file or nothing. A tile passes when the store holds an image
with exactly the expected colours; an image that is no tile is a fault; all else fails. A tile
without room is never checked.
-/

namespace TileAudit

/-!
## What a store shows

What a store holds at an address is nothing, no image, an image that can be no tile, or an image of
colours.
-/

namespace Store

variable [ImageCodec] [DatabaseEngine]

/-- A store that shows a tile at an address: the bytes it holds there are an image of colours of
eight bits, of the given size, whose red, green and blue are those of the tile at every pixel. -/
def Shows (store : Store) (tree : FileTree) (cwd : Location) (address : TileAddress)
    (size : Nat) (tile : Tile) : Prop :=
  ∃ bytes image, store.Holds tree cwd address bytes ∧ ImageCodec.decode? bytes = some image ∧
    image.IsColour8 ∧ image.height = size ∧ image.width = size ∧
    ∀ row col band, row < size → col < size → band < tileBands →
      image.sample? row col band = tile.get? col row band

/-- A store that holds an image at an address that can be no tile. -/
def HoldsNoColours (store : Store) (tree : FileTree) (cwd : Location) (address : TileAddress) :
    Prop :=
  ∃ bytes image, store.Holds tree cwd address bytes ∧ ImageCodec.decode? bytes = some image ∧
    ¬ image.IsColour8

/-- A store that holds nothing at an address, no image, or an image of another size. -/
def Misses (store : Store) (tree : FileTree) (cwd : Location) (address : TileAddress)
    (size : Nat) : Prop :=
  (∀ bytes, ¬ store.Holds tree cwd address bytes) ∨
  (∃ bytes, store.Holds tree cwd address bytes ∧ ImageCodec.decode? bytes = none) ∨
  ∃ bytes image, store.Holds tree cwd address bytes ∧ ImageCodec.decode? bytes = some image ∧
    image.IsColour8 ∧ (image.height, image.width) ≠ (size, size)

theorem holds_cases (store : Store) (tree : FileTree) (cwd : Location) (address : TileAddress) :
    (∀ bytes, ¬ store.Holds tree cwd address bytes) ∨
    (∃ bytes, store.Holds tree cwd address bytes ∧ ImageCodec.decode? bytes = none) ∨
    store.HoldsNoColours tree cwd address ∨
    ∃ bytes image, store.Holds tree cwd address bytes ∧ ImageCodec.decode? bytes = some image ∧
      image.IsColour8 := by
  by_cases hholds : ∃ bytes, store.Holds tree cwd address bytes
  · rcases hholds with ⟨bytes, hholds⟩
    cases himage : ImageCodec.decode? bytes with
    | none => exact Or.inr (Or.inl ⟨bytes, hholds, himage⟩)
    | some image =>
        by_cases hcolour : image.IsColour8
        · exact Or.inr (Or.inr (Or.inr ⟨bytes, image, hholds, himage, hcolour⟩))
        · exact Or.inr (Or.inr (Or.inl ⟨bytes, image, hholds, himage, hcolour⟩))
  · exact Or.inl fun bytes hbytes => hholds ⟨bytes, hbytes⟩

end Store

section

variable [ImageCodec] [DatabaseEngine]

/-- An outcome of a check that follows from what a store holds for a tile of a size. -/
structure IsJudged (outcome : Except Fault Comparison) (store : Store) (tree : FileTree)
    (cwd : Location) (tile : TileAddress) (size : Nat) (expected : Tile) : Prop where
  /-- A tile passes exactly when the store shows what is expected. -/
  matched_iff : ∀ comparison, outcome = .ok comparison →
    (comparison.matched = true ↔ store.Shows tree cwd tile size expected)
  missed : store.Misses tree cwd tile size →
    ∃ comparison, outcome = .ok comparison ∧ comparison.IsPlainFailure
  fault_iff : (∃ fault, outcome = .error fault) ↔ store.HoldsNoColours tree cwd tile

end

/-!
## The cases of a comparison

The room for the expected tile comes first, and then the store.
-/

namespace Raster

section

variable [ImageCodec] [DatabaseEngine]

/-- What comparing a tile comes to: the tile that the raster shows against what the store gives. -/
def verdict (raster : Raster) (grid : TileGrid) (store : Store) (w : World) (tile : TileAddress) :
    Except Fault Comparison := do
  let expected ← raster.sampledTile grid tile
  let actual ← (Effect.run (store.readTile tile) w).1
  return expected.compare actual

def check (raster : Raster) (grid : TileGrid) (store : Store) (tile : TileAddress) :
    Effect Comparison := do
  let expected ← raster.expectedTile grid tile
  let actual ← store.readTile tile
  compareTiles expected actual

variable {raster : Raster} {grid : TileGrid} {store : Store} {tile : TileAddress} {w later : World}

theorem verdict_eq (htree : later.tree = w.tree) (hcwd : later.cwd = w.cwd) :
    raster.verdict grid store later tile = raster.verdict grid store w tile := by
  unfold verdict
  rw [Store.outcome_readTile_eq htree hcwd]

theorem outcome_check (raster : Raster) (grid : TileGrid) (store : Store) (tile : TileAddress)
    (w : World) :
    (Effect.run (raster.check grid store tile) w).1 = raster.verdict grid store w tile := by
  rcases raster.exists_run_expectedTile grid tile w with ⟨events, hexpected⟩
  unfold check verdict
  rw [Effect.run_bind, hexpected]
  cases raster.sampledTile grid tile with
  | error fault => rfl
  | ok expected =>
      have hstore : (Effect.run (store.readTile tile) ⟨w.tree, w.cwd, events⟩).1 =
          (Effect.run (store.readTile tile) w).1 := Store.outcome_readTile_eq rfl rfl
      dsimp only
      rw [Effect.run_bind, ← hstore]
      rcases Effect.run (store.readTile tile) ⟨w.tree, w.cwd, events⟩ with ⟨outcome, after⟩
      cases outcome with
      | error fault => rfl
      | ok actual => rfl

theorem keeps_check (property : FileTree → Location → Prop) (raster : Raster) (grid : TileGrid)
    (store : Store) (tile : TileAddress) :
    Effect.Keeps property (raster.check grid store tile) := by
  unfold check
  refine ((reads_expectedTile raster grid tile).keeps property).bind fun expected => ?_
  refine ((store.reads_readTile tile).keeps property).bind fun actual => ?_
  exact (reads_compareTiles expected actual).keeps property

theorem verdict_of_room (hroom : Tile.HasRoom grid.tileSize) :
    raster.verdict grid store w tile = (Effect.run (store.readTile tile) w).1.map
      (raster.sampleTile grid tile).compare := by
  unfold verdict
  rw [sampledTile_of_room hroom]
  cases (Effect.run (store.readTile tile) w).1 with
  | error fault => rfl
  | ok actual => rfl

theorem verdict_of_no_room (hroom : ¬ Tile.HasRoom grid.tileSize) :
    raster.verdict grid store w tile = .error .brokenOff := by
  unfold verdict
  rw [sampledTile_of_no_room hroom]
  rfl

variable (hlawful : DatabaseEngine.Lawful) (hroom : Tile.HasRoom grid.tileSize)

include hlawful hroom

theorem verdict_of_not_holds (h : ∀ bytes, ¬ store.Holds w.tree w.cwd tile bytes) :
    raster.verdict grid store w tile = .ok .absent := by
  have hlacks : store.Lacks w.tree w.cwd tile := (Store.lacks_iff hlawful).mpr h
  rw [verdict_of_room hroom, Store.outcome_of_lacks hlawful hlacks]
  rfl

theorem verdict_of_holds {bytes : ByteArray} (h : store.Holds w.tree w.cwd tile bytes) :
    raster.verdict grid store w tile =
      (decodedTile bytes).map (raster.sampleTile grid tile).compare := by
  rw [verdict_of_room hroom, Store.outcome_of_holds hlawful h]

theorem verdict_of_undecodable {bytes : ByteArray} (h : store.Holds w.tree w.cwd tile bytes)
    (hnone : ImageCodec.decode? bytes = none) :
    raster.verdict grid store w tile = .ok .absent := by
  rw [verdict_of_holds hlawful hroom h]
  unfold decodedTile
  rw [hnone]
  rfl

theorem verdict_of_no_colours (h : store.HoldsNoColours w.tree w.cwd tile) :
    ∃ fault, raster.verdict grid store w tile = .error fault := by
  rcases h with ⟨bytes, image, hholds, himage, hcolour⟩
  rcases Tile.exists_ofImage_error hcolour with ⟨fault, hfault⟩
  refine ⟨fault, ?_⟩
  rw [verdict_of_holds hlawful hroom hholds]
  unfold decodedTile
  simp only [himage, hfault]
  rfl

theorem verdict_of_colours {bytes : ByteArray} {image : Image}
    (h : store.Holds w.tree w.cwd tile bytes) (himage : ImageCodec.decode? bytes = some image)
    (hcolour : image.IsColour8) :
    ∃ actual, Tile.IsMadeFrom actual image ∧ raster.verdict grid store w tile =
      .ok ((raster.sampleTile grid tile).compare (some actual)) := by
  rcases Tile.exists_ofImage hcolour with ⟨actual, hactual, hmade⟩
  refine ⟨actual, hmade, ?_⟩
  rw [verdict_of_holds hlawful hroom h]
  unfold decodedTile
  simp only [himage, hactual]
  rfl

theorem verdict_of_misses (h : store.Misses w.tree w.cwd tile grid.tileSize) :
    ∃ comparison, raster.verdict grid store w tile = .ok comparison ∧
      comparison.IsPlainFailure := by
  rcases h with hnothing | ⟨bytes, hholds, hnone⟩ | ⟨bytes, image, hholds, himage, hcolour, hsize⟩
  · exact ⟨_, verdict_of_not_holds hlawful hroom hnothing,
      Comparison.isPlainFailure_absent⟩
  · exact ⟨_, verdict_of_undecodable hlawful hroom hholds hnone,
      Comparison.isPlainFailure_absent⟩
  · rcases verdict_of_colours hlawful hroom hholds himage hcolour with
      ⟨actual, hmade, hverdict⟩
    have hshape : (raster.sampleTile grid tile).shape ≠ actual.shape := by
      intro hsame
      apply hsize
      rw [← hmade.height, ← hmade.width]
      exact hsame.symm
    rw [Tile.compare_shapesDiffer hshape] at hverdict
    exact ⟨_, hverdict, Comparison.isPlainFailure_shapesDiffer⟩

theorem verdict_error_iff :
    (∃ fault, raster.verdict grid store w tile = .error fault) ↔
      store.HoldsNoColours w.tree w.cwd tile := by
  constructor
  · rintro ⟨fault, hfault⟩
    rcases store.holds_cases w.tree w.cwd tile with
      hnothing | ⟨bytes, hholds, hnone⟩ | hother | ⟨bytes, image, hholds, himage, hcolour⟩
    · rw [verdict_of_not_holds hlawful hroom hnothing] at hfault
      cases hfault
    · rw [verdict_of_undecodable hlawful hroom hholds hnone] at hfault
      cases hfault
    · exact hother
    · rcases verdict_of_colours hlawful hroom hholds himage hcolour with
        ⟨actual, _, hverdict⟩
      rw [hverdict] at hfault
      cases hfault
  · exact verdict_of_no_colours hlawful hroom

theorem matched_iff_shows {comparison : Comparison}
    (h : raster.verdict grid store w tile = .ok comparison) :
    comparison.matched = true ↔
      store.Shows w.tree w.cwd tile grid.tileSize
        (raster.sampleTile grid tile) := by
  constructor
  · intro hmatched
    rcases store.holds_cases w.tree w.cwd tile with
      hnothing | ⟨bytes, hholds, hnone⟩ | hother | ⟨bytes, image, hholds, himage, hcolour⟩
    · rw [verdict_of_not_holds hlawful hroom hnothing] at h
      cases h
      cases hmatched
    · rw [verdict_of_undecodable hlawful hroom hholds hnone] at h
      cases h
      cases hmatched
    · rcases verdict_of_no_colours hlawful hroom hother with ⟨fault, hfault⟩
      rw [hfault] at h
      cases h
    · rcases verdict_of_colours hlawful hroom hholds himage hcolour with
        ⟨actual, hmade, hverdict⟩
      rw [hverdict] at h
      cases h
      have hagrees := Tile.compare_matched_iff.mp hmatched
      exact ⟨bytes, image, hholds, himage, hcolour,
        (Tile.agrees_iff_of_isMadeFrom hmade).mp hagrees⟩
  · rintro ⟨bytes, image, hholds, himage, hcolour, hshows⟩
    rcases verdict_of_colours hlawful hroom hholds himage hcolour with
      ⟨actual, hmade, hverdict⟩
    rw [hverdict] at h
    cases h
    exact Tile.compare_matched_iff.mpr ((Tile.agrees_iff_of_isMadeFrom hmade).mpr hshows)

theorem isJudged_verdict :
    IsJudged (raster.verdict grid store w tile) store w.tree w.cwd tile grid.tileSize
      (raster.sampleTile grid tile) where
  matched_iff := fun _ => matched_iff_shows hlawful hroom
  missed := verdict_of_misses hlawful hroom
  fault_iff := verdict_error_iff hlawful hroom

end

end Raster

namespace Scenario

section

variable [TiffCodec] [ImageCodec] [DatabaseEngine]

/-!
## The verdict of a check

The raster file is read before anything else.
-/

/-- What checking a tile comes to: the tile that the raster file shows is compared with what the
store gives. -/
def verdict (scenario : Scenario) (store : Store) (w : World) (tile : TileAddress) :
    Except Fault Comparison := do
  let raster ← rasterIn scenario.config.rasterPath w.tree w.cwd
  raster.verdict scenario.grid store w tile

theorem verdict_of_read {scenario : Scenario} {raster : Raster} {store : Store} {w : World}
    {tile : TileAddress} (h : rasterIn scenario.config.rasterPath w.tree w.cwd = .ok raster) :
    scenario.verdict store w tile = raster.verdict scenario.grid store w tile := by
  unfold verdict
  rw [h]
  rfl

theorem verdict_eq {scenario : Scenario} {store : Store} {w later : World} {tile : TileAddress}
    (htree : later.tree = w.tree) (hcwd : later.cwd = w.cwd) :
    scenario.verdict store later tile = scenario.verdict store w tile := by
  have hcheck : ∀ raster : Raster, raster.verdict scenario.grid store later tile =
      raster.verdict scenario.grid store w tile := fun raster => Raster.verdict_eq htree hcwd
  unfold verdict
  simp only [htree, hcwd, hcheck]

theorem verifyTile_eq (scenario : Scenario) (store : Store) (tile : TileAddress) :
    scenario.verifyTile store tile = (do
      Effect.tell (.verifying store.backend tile)
      let raster ← readRaster scenario.config.rasterPath
      raster.check scenario.grid store tile) := by
  unfold verifyTile expectedTile Raster.check
  simp only [bind_assoc]

theorem outcome_verifyTile (scenario : Scenario) (store : Store) (tile : TileAddress) (w : World) :
    (Effect.run (scenario.verifyTile store tile) w).1 = scenario.verdict store w tile := by
  let told : World := ⟨w.tree, w.cwd, w.events ++ [.verifying store.backend tile]⟩
  rw [verifyTile_eq, Effect.run_bind_of_ok (Effect.run_tell _ w)]
  cases hraster : rasterIn scenario.config.rasterPath w.tree w.cwd with
  | error fault =>
      have hread : Effect.run (readRaster scenario.config.rasterPath) told = (.error fault, told) :=
        run_readRaster_of_error hraster
      rw [Effect.run_bind_of_error hread, verdict, hraster]
      rfl
  | ok raster =>
      have hread := run_readRaster_of_ok (w := told) hraster
      rw [Effect.run_bind_of_ok hread, verdict_of_read hraster, Raster.outcome_check]
      exact Raster.verdict_eq rfl rfl

theorem outcome_verifyTiles (scenario : Scenario) (store : Store) (tiles : List TileAddress)
    {w later : World} (htree : later.tree = w.tree) (hcwd : later.cwd = w.cwd) :
    (Effect.run (scenario.verifyTiles store tiles) later).1 =
      tiles.mapM fun tile =>
        (scenario.verdict store w tile).map fun comparison => (tile, comparison) := by
  -- Only events are added between two checks, and no verdict depends on them.
  induction tiles generalizing later with
  | nil => rfl
  | cons tile rest ih =>
      have hkeeps : Effect.Keeps (fun t cwd => t = w.tree ∧ cwd = w.cwd)
          (scenario.verifyTile store tile) := (scenario.reads_verifyTile store tile).keeps _
      have hkept := hkeeps later ⟨htree, hcwd⟩
      have hverdict := scenario.outcome_verifyTile store tile later
      rw [verdict_eq htree hcwd] at hverdict
      unfold verifyTiles
      rw [List.mapM_cons, Effect.run_bind, ← hverdict]
      rcases hrun : Effect.run (scenario.verifyTile store tile) later with ⟨outcome, checked⟩
      rw [hrun] at hkept
      cases outcome with
      | error fault => rfl
      | ok comparison =>
          dsimp only
          rw [Effect.run_bind, ← ih hkept.1 hkept.2]
          rcases Effect.run (scenario.verifyTiles store rest) checked with ⟨others, last⟩
          cases others with
          | error fault => rfl
          | ok others => rfl

end

def smallTileDir : String :=
  "/run/cache_data/disk/disk-tileset/synthetic_grid/00/000/000/600/000/000"

def pixelPicture : Image :=
  ⟨⟨.rgba, .eight⟩, 1, 1, ⟨#[0, 1, 1, 77]⟩, rfl⟩

def checkPicture : Effect Comparison := do
  let scenario ← prepare smallConfig
  Effect.makeParents (PathText.join smallTileDir "000.png")
  Effect.writeBytes (PathText.join smallTileDir "000.png") (Tiff.writePicture pixelPicture)
  scenario.verifyTile (scenario.store .disk) ⟨0, 600, 0⟩

theorem isName_pictureFile : PathText.IsName "000.png" where
  ne_empty := by decide
  no_slash := by decide
  ne_point := by decide
  ne_points := by decide

theorem rasterFile_ne_pictureFile : "synthetic_test_data.tif" ≠ "000.png" := by
  decide

def roomlessConfig : Config :=
  { smallConfig with grid := { Config.defaultGrid with tileSize := 2147483648 } }

def roomlessFiles : DiskStore :=
  { base := roomlessConfig.cacheBase, backendName := "disk", tileset := "disk-tileset",
    grid := roomlessConfig.gridName }

def lookForTile : Effect Bool := do
  let _ ← prepare roomlessConfig
  Effect.inspect fun tree cwd => (tree.readBytes cwd (roomlessFiles.tilePath ⟨0, 0, 0⟩)).isOk

end Scenario
end TileAudit
