import TileAudit.Command.Run
import TileAudit.Proofs.Grid.Address

/-!
# Zoom levels of a request

The zoom levels that a seeder is asked for are those of the requested tiles, each once and in rising
order, and the argument that names them can be read back.
-/

namespace TileAudit

section

variable {current zoom : UInt32} {rest kept : List UInt32}

theorem mem_eraseReps_loop :
    zoom ∈ List.eraseRepsBy.loop (· == ·) current rest kept ↔
      zoom ∈ kept ∨ zoom = current ∨ zoom ∈ rest := by
  induction rest generalizing current kept with
  | nil =>
      rw [List.eraseRepsBy.loop, List.mem_reverse, List.mem_cons]
      simp [or_comm]
  | cons next rest ih =>
      rw [List.eraseRepsBy.loop, List.mem_cons]
      cases hsame : current == next with
      | true =>
          have heq : current = next := eq_of_beq hsame
          rw [ih, heq, or_self_left]
      | false =>
          rw [ih, List.mem_cons, or_assoc, or_left_comm]

theorem pairwise_eraseReps_loop (hsorted : (current :: rest).Pairwise (· ≤ ·))
    (hkept : kept.Pairwise (· > ·)) (hbelow : ∀ zoom ∈ kept, zoom < current) :
    (List.eraseRepsBy.loop (· == ·) current rest kept).Pairwise (· < ·) := by
  have hall : (current :: kept).Pairwise (· > ·) := List.pairwise_cons.mpr ⟨hbelow, hkept⟩
  induction rest generalizing current kept with
  | nil =>
      rw [List.eraseRepsBy.loop]
      exact List.pairwise_reverse.mpr hall
  | cons next rest ih =>
      rcases List.pairwise_cons.mp hsorted with ⟨hfirst, htail⟩
      rw [List.eraseRepsBy.loop]
      cases hsame : current == next with
      | true =>
          have heq : current = next := eq_of_beq hsame
          rw [heq] at hbelow hall ⊢
          exact ih htail hkept hbelow hall
      | false =>
          have hlt : current < next :=
            UInt32.lt_of_le_of_ne (hfirst next List.mem_cons_self) (ne_of_beq_false hsame)
          have hnext : ∀ zoom ∈ current :: kept, zoom < next := by
            intro zoom hzoom
            rcases List.mem_cons.mp hzoom with rfl | hold
            · exact hlt
            · exact UInt32.lt_trans (hbelow zoom hold) hlt
          exact ih htail hall hnext (List.pairwise_cons.mpr ⟨hnext, hall⟩)

end

theorem mem_eraseReps {zoom : UInt32} {zooms : List UInt32} :
    zoom ∈ zooms.eraseReps ↔ zoom ∈ zooms := by
  cases zooms with
  | nil => rfl
  | cons first rest =>
      refine mem_eraseReps_loop.trans ?_
      simp

theorem pairwise_eraseReps {zooms : List UInt32} (h : zooms.Pairwise (· ≤ ·)) :
    zooms.eraseReps.Pairwise (· < ·) := by
  cases zooms with
  | nil => exact List.Pairwise.nil
  | cons first rest => exact pairwise_eraseReps_loop h List.Pairwise.nil (by simp)

namespace CommandLine

theorem pairwise_zoomLevels (tiles : List TileAddress) :
    (zoomLevels tiles).Pairwise (· < ·) := by
  have hsorted : ((tiles.map TileAddress.zoom).mergeSort fun a b => a ≤ b).Pairwise
      fun a b => decide (a ≤ b) = true :=
    List.pairwise_mergeSort (by simpa using fun a b c => UInt32.le_trans)
      (by simpa using UInt32.le_total) _
  apply pairwise_eraseReps
  simpa using hsorted

theorem mem_zoomLevels {tiles : List TileAddress} {zoom : UInt32} :
    zoom ∈ zoomLevels tiles ↔ ∃ tile ∈ tiles, tile.zoom = zoom := by
  rw [zoomLevels, mem_eraseReps, List.mem_mergeSort, List.mem_map]

theorem zoomLevels_ne_nil {tiles : List TileAddress} (h : tiles ≠ []) : zoomLevels tiles ≠ [] := by
  rcases List.exists_mem_of_ne_nil tiles h with ⟨tile, htile⟩
  exact List.ne_nil_of_mem (mem_zoomLevels.mpr ⟨tile, htile, rfl⟩)

end CommandLine

/-!
## The argument

Between the commas of the argument stand the numerals of the zoom levels, and a comma is in no
numeral.
-/

namespace SeedingProgram

theorem splitOn_zoomArgument {zooms : List UInt32} (h : zooms ≠ []) :
    (zoomArgument zooms).toList.splitOn ',' =
      zooms.map fun zoom => (toString zoom.toNat).toList := by
  rw [zoomArgument, String.toList_intercalate, List.map_map]
  apply List.splitOn_intercalate
  · intro numeral hnumeral
    rcases List.mem_map.mp hnumeral with ⟨zoom, _, rfl⟩
    exact Numeral.not_mem_toString rfl zoom.toNat
  · simpa using h

theorem mapM_readPart_zoomArgument {zooms : List UInt32} (h : zooms ≠ []) :
    ((zoomArgument zooms).toList.splitOn ',').mapM TileAddress.readPart = .ok zooms := by
  rw [splitOn_zoomArgument h, List.mapM_map]
  clear h
  induction zooms with
  | nil => rfl
  | cons zoom rest ih =>
      rw [List.mapM_cons, Function.comp_apply, TileAddress.readPart_numeral]
      dsimp only [bind, Except.bind]
      rw [ih]
      rfl

end SeedingProgram
end TileAudit
