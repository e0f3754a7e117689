import TileAudit.Audit
import TileAudit.Proofs.Effect.Run
import TileAudit.Proofs.Sampling.Pixels

/-!
# Room for a tile

A tile is sampled only where its samples can be addressed. That depends on its size alone, not on
the raster, the place or the grid.
-/

namespace TileAudit

namespace Tile

def HasRoom (size : Nat) : Prop :=
  Samples.isAddressable size size tileBands = true

instance (size : Nat) : Decidable (HasRoom size) :=
  inferInstanceAs (Decidable (_ = true))

theorem hasRoom_iff (size : Nat) : HasRoom size ↔ 3 * size * size ≤ Numeral.limitSigned64 := by
  rcases Nat.eq_zero_or_pos size with rfl | hpos
  · decide
  · have hproduct : size * size * tileBands = 3 * size * size := by
      unfold tileBands
      rw [Nat.mul_comm, Nat.mul_assoc]
    unfold HasRoom
    rw [Samples.isAddressable_iff_of_pos hpos hpos (by decide), hproduct]

theorem zeros?_of_room {size : Nat} (h : HasRoom size) : zeros? size = some (black size) :=
  if_pos h

theorem zeros?_of_no_room {size : Nat} (h : ¬ HasRoom size) : zeros? size = none :=
  if_neg h

end Tile

namespace Raster

variable {raster : Raster} {grid : TileGrid} {tile : TileAddress} {box : BoundingBox} {size : Nat}

theorem sampleTile?_of_room (h : Tile.HasRoom grid.tileSize) :
    raster.sampleTile? grid tile = some (raster.sampleTile grid tile) := by
  unfold sampleTile?
  rw [Tile.zeros?_of_room h]
  rfl

theorem sampleTile?_of_no_room (h : ¬ Tile.HasRoom grid.tileSize) :
    raster.sampleTile? grid tile = none := by
  unfold sampleTile?
  rw [Tile.zeros?_of_no_room h]
  rfl

theorem sampleBounds?_of_no_room (h : ¬ Tile.HasRoom size) :
    raster.sampleBounds? box size = none := by
  unfold sampleBounds?
  rw [Tile.zeros?_of_no_room h]
  rfl

/-- The tile that an address has to show, or the program is broken off for want of room. -/
def sampledTile (raster : Raster) (grid : TileGrid) (tile : TileAddress) : Except Fault Tile :=
  match raster.sampleTile? grid tile with
  | none => .error .brokenOff
  | some expected => .ok expected

theorem sampledTile_of_room (h : Tile.HasRoom grid.tileSize) :
    raster.sampledTile grid tile = .ok (raster.sampleTile grid tile) := by
  rw [sampledTile, sampleTile?_of_room h]

theorem sampledTile_of_no_room (h : ¬ Tile.HasRoom grid.tileSize) :
    raster.sampledTile grid tile = .error .brokenOff := by
  rw [sampledTile, sampleTile?_of_no_room h]

def samplingEvents (raster : Raster) (grid : TileGrid) (tile : TileAddress) : List Event :=
  .locatedTile tile ::
    if raster.reachesOutside (grid.sampleGrid tile) then [.reachedOutside] else []

theorem run_expectedTile_of_room (h : Tile.HasRoom grid.tileSize) (w : World) :
    Effect.run (raster.expectedTile grid tile) w =
      (.ok (raster.sampleTile grid tile),
        { w with events := w.events ++ raster.samplingEvents grid tile }) := by
  unfold expectedTile
  rw [Effect.run_bind_of_ok (Effect.run_tell _ w), sampleTile?_of_room h]
  show (_, _) = (_, _)
  simp only [samplingEvents, List.append_assoc, List.singleton_append]

theorem exists_run_expectedTile (raster : Raster) (grid : TileGrid) (tile : TileAddress)
    (w : World) : ∃ events, Effect.run (raster.expectedTile grid tile) w =
      (raster.sampledTile grid tile, ⟨w.tree, w.cwd, events⟩) := by
  unfold expectedTile sampledTile
  rw [Effect.run_bind_of_ok (Effect.run_tell _ w)]
  cases raster.sampleTile? grid tile with
  | none => exact ⟨_, rfl⟩
  | some expected => exact ⟨_, rfl⟩

end Raster
end TileAudit
