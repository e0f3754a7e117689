import Mathlib.Data.Finset.Card
import TileAudit.Proofs.Comparison.Differences
import TileAudit.Proofs.Tile.Pixels

/-!
# Edited tiles

A tile may be changed pixel by pixel, any number of times and in any order. Each change replaces one
pixel and leaves the others alone, so in the end a pixel has the colour of its last change, and one
that was never changed is as it was. What the black pixels and the differing samples of the result
are can then be told from the old tile and the list of changes.
-/

namespace TileAudit

structure PixelEdit where
  col : Nat
  row : Nat
  colour : Colour
deriving DecidableEq, Repr

namespace PixelEdit

def place (e : PixelEdit) : Nat × Nat :=
  (e.col, e.row)

def last? (edits : List PixelEdit) (place : Nat × Nat) : Option PixelEdit :=
  edits.reverse.find? fun e => e.place = place

variable {edits : List PixelEdit} {e : PixelEdit} {place : Nat × Nat}

theorem last?_concat_self (edits : List PixelEdit) (e : PixelEdit) :
    last? (edits ++ [e]) e.place = some e := by
  unfold last?
  rw [List.reverse_append, List.reverse_singleton, List.singleton_append]
  exact List.find?_cons_of_pos (decide_eq_true rfl)

theorem last?_concat_of_ne (edits : List PixelEdit) (h : e.place ≠ place) :
    last? (edits ++ [e]) place = last? edits place := by
  unfold last?
  rw [List.reverse_append, List.reverse_singleton, List.singleton_append]
  refine List.find?_cons_of_neg ?_
  rw [decide_eq_true_iff]
  exact h

theorem last?_eq_none_iff : last? edits place = none ↔ ∀ e ∈ edits, e.place ≠ place := by
  unfold last?
  simp only [List.find?_eq_none, List.mem_reverse, decide_eq_true_iff, ne_eq]

theorem mem_of_last? (h : last? edits place = some e) : e ∈ edits ∧ e.place = place := by
  unfold last? at h
  have hat := List.find?_some h
  constructor
  · exact List.mem_reverse.mp (List.mem_of_find?_eq_some h)
  · exact of_decide_eq_true hat

end PixelEdit

namespace Tile

def setPixels? (tile : Tile) (edits : List PixelEdit) : Option Tile :=
  edits.foldlM (fun tile e => tile.setPixel? e.col e.row e.colour) tile

/-- The sample that some edits leave at a place: that of the pixel's last edit, or else the old
one. -/
def sampleAfter? (tile : Tile) (edits : List PixelEdit) (col row band : Nat) : Option UInt8 :=
  match PixelEdit.last? edits (col, row) with
  | some e => some (e.colour.band band)
  | none => tile.get? col row band

/-- A tile that shows what some edits leave of another one. -/
structure IsEdited (tile : Tile) (edits : List PixelEdit) (tile' : Tile) : Prop where
  height : tile'.height = tile.height
  width : tile'.width = tile.width
  samples : ∀ {col row band}, band < tileBands →
    tile'.get? col row band = tile.sampleAfter? edits col row band

section

variable {tile tile' next : Tile} {edits : List PixelEdit} {e : PixelEdit} {col row band : Nat}

theorem sampleAfter?_of_last? (h : PixelEdit.last? edits (col, row) = some e) :
    tile.sampleAfter? edits col row band = some (e.colour.band band) := by
  unfold sampleAfter?
  rw [h]

theorem sampleAfter?_of_not_edited (h : ∀ e ∈ edits, e.place ≠ (col, row)) :
    tile.sampleAfter? edits col row band = tile.get? col row band := by
  unfold sampleAfter?
  rw [PixelEdit.last?_eq_none_iff.mpr h]

theorem exists_edit_of_sampleAfter?_ne
    (h : tile.get? col row band ≠ tile.sampleAfter? edits col row band) :
    ∃ e ∈ edits, e.place = (col, row) := by
  by_contra hnone
  push Not at hnone
  exact h (sampleAfter?_of_not_edited hnone).symm

theorem isEdited_nil (tile : Tile) : tile.IsEdited [] tile :=
  ⟨rfl, rfl, fun _ => rfl⟩

theorem IsEdited.step (h : tile.IsEdited edits tile')
    (hset : tile'.Replaces e.col e.row e.colour next) : tile.IsEdited (edits ++ [e]) next := by
  refine ⟨hset.height.trans h.height, hset.width.trans h.width, ?_⟩
  intro col row band hband
  by_cases hplace : e.place = (col, row)
  · have hlast := PixelEdit.last?_concat_self edits e
    rw [hplace] at hlast
    cases hplace
    rw [hset.pixel band hband, sampleAfter?_of_last? hlast]
  · have hother : ¬ (col = e.col ∧ row = e.row) := by
      rintro ⟨rfl, rfl⟩
      exact hplace rfl
    rw [hset.others col row band hother, h.samples hband]
    unfold sampleAfter?
    rw [PixelEdit.last?_concat_of_ne edits hplace]

theorem IsEdited.run (h : tile.IsEdited edits tile') (further : List PixelEdit)
    (hin : ∀ e ∈ further, e.col < tile.width ∧ e.row < tile.height) :
    ∃ last, tile'.setPixels? further = some last ∧ tile.IsEdited (edits ++ further) last := by
  -- the edits that are done already grow by one in each step
  induction further generalizing edits tile' with
  | nil =>
      refine ⟨tile', rfl, ?_⟩
      rw [List.append_nil]
      exact h
  | cons e rest ih =>
      rcases hin e List.mem_cons_self with ⟨hcol, hrow⟩
      rw [← h.width] at hcol
      rw [← h.height] at hrow
      rcases tile'.exists_setPixel? e.colour hcol hrow with ⟨next, hset, hreplaces⟩
      rcases ih (h.step hreplaces) (fun e' he' => hin e' (List.mem_cons_of_mem _ he')) with
        ⟨last, hrest, hedited⟩
      refine ⟨last, ?_, ?_⟩
      · unfold setPixels?
        rw [List.foldlM_cons, hset]
        exact hrest
      · rw [List.append_assoc, List.singleton_append] at hedited
        exact hedited

theorem exists_setPixels? (tile : Tile) (edits : List PixelEdit)
    (hin : ∀ e ∈ edits, e.col < tile.width ∧ e.row < tile.height) :
    ∃ tile', tile.setPixels? edits = some tile' ∧ tile.IsEdited edits tile' :=
  (isEdited_nil tile).run edits hin

/-!
## What the edits tell

The black pixels and the differing samples are counted at the last edits; only samples of edited
pixels can differ.
-/

def isBlackAfter (tile : Tile) (edits : List PixelEdit) (place : Nat × Nat) : Bool :=
  decide (∀ band, band < tileBands → tile.sampleAfter? edits place.1 place.2 band = some 0)

namespace IsEdited

variable (h : tile.IsEdited edits tile')

include h

theorem shape : tile'.shape = tile.shape :=
  Prod.ext h.height h.width

theorem countBlack :
    tile'.countBlack =
      (pixelPlaces tile.height tile.width).countP (tile.isBlackAfter edits) := by
  rw [countBlack_eq, h.height, h.width]
  refine List.countP_congr fun place _ => ?_
  unfold isBlackAt isBlackAfter
  rw [decide_eq_true_iff, decide_eq_true_iff]
  refine forall_congr' fun band => forall_congr' fun hband => ?_
  rw [h.samples hband]

theorem differs_iff {p : SamplePlace} (hp : p ∈ tile.places) :
    tile.sample? p ≠ tile'.sample? p ↔
      tile.get? p.col p.row p.band ≠ tile.sampleAfter? edits p.col p.row p.band := by
  have hsample : tile'.sample? p = tile.sampleAfter? edits p.col p.row p.band :=
    h.samples (SamplePlace.mem_all.mp hp).2.2
  rw [hsample]
  exact Iff.rfl

theorem mismatchCount :
    (tile.compare (some tile')).mismatchCount =
      tile.places.countP fun p =>
        tile.get? p.col p.row p.band ≠ tile.sampleAfter? edits p.col p.row p.band := by
  rw [mismatchCount_eq h.shape.symm, length_differingPlaces]
  refine List.countP_congr fun p hp => ?_
  rw [decide_eq_true_iff, decide_eq_true_iff]
  exact h.differs_iff hp

theorem differingPlaces_subset :
    tile.differingPlaces tile' ⊆
      (edits.map PixelEdit.place).dedup.flatMap fun place =>
        (List.range tileBands).map fun band => ⟨place.2, place.1, band⟩ := by
  intro p hp
  rcases mem_differingPlaces.mp hp with ⟨hmem, hne⟩
  rcases exists_edit_of_sampleAfter?_ne ((h.differs_iff hmem).mp hne) with ⟨e, he, hplace⟩
  refine List.mem_flatMap.mpr ⟨(p.col, p.row), ?_, ?_⟩
  · rw [List.mem_dedup, ← hplace]
    exact List.mem_map_of_mem he
  · exact List.mem_map.mpr ⟨p.band, List.mem_range.mpr (SamplePlace.mem_all.mp hmem).2.2, rfl⟩

theorem mismatchCount_le :
    (tile.compare (some tile')).mismatchCount ≤ 3 * (edits.map PixelEdit.place).toFinset.card := by
  have hnodup : (tile.differingPlaces tile').Nodup :=
    (SamplePlace.nodup_all _ _ _).filter _
  have hle := hnodup.length_le_of_subset h.differingPlaces_subset
  rw [List.length_flatMap] at hle
  simp only [List.length_map, List.length_range, List.map_const', List.sum_replicate_nat] at hle
  rw [mismatchCount_eq h.shape.symm, List.card_toFinset]
  calc
    (tile.differingPlaces tile').length ≤ (edits.map PixelEdit.place).dedup.length * tileBands := hle
    _ = 3 * (edits.map PixelEdit.place).dedup.length := Nat.mul_comm _ _

theorem matched_iff_restored (hin : ∀ e ∈ edits, e.col < tile.width ∧ e.row < tile.height) :
    (tile.compare (some tile')).matched = true ↔
      ∀ e ∈ edits, ∀ band, band < tileBands →
        tile.sampleAfter? edits e.col e.row band = tile.get? e.col e.row band := by
  rw [matched_iff h.shape.symm, differingPlaces_eq_nil_iff]
  constructor
  · intro hsame e he band hband
    rcases hin e he with ⟨hcol, hrow⟩
    have hplace : tile.sample? ⟨e.row, e.col, band⟩ = tile'.sample? ⟨e.row, e.col, band⟩ :=
      hsame _ (SamplePlace.mem_all.mpr ⟨hrow, hcol, hband⟩)
    rw [← h.samples hband]
    exact hplace.symm
  · intro hrestored p hp
    by_contra hne
    have hchanged := (h.differs_iff hp).mp hne
    rcases exists_edit_of_sampleAfter?_ne hchanged with ⟨e, he, hplace⟩
    have hband : p.band < tileBands := (SamplePlace.mem_all.mp hp).2.2
    have hcol : e.col = p.col := congrArg Prod.fst hplace
    have hrow : e.row = p.row := congrArg Prod.snd hplace
    have hold := hrestored e he p.band hband
    rw [hcol, hrow] at hold
    exact hchanged hold.symm

end IsEdited

end

/-- Edits of pixels in a tile never fail and keep its shape. Every pixel ends with its last edit, or
as it was; the black pixels and the differing samples are those that the last edits tell, at most
three for each pixel that is edited at all; and the tile still matches when every edited pixel ends
as it was. -/
theorem setPixels?_shows_last_edits (tile : Tile) (edits : List PixelEdit)
    (hin : ∀ e ∈ edits, e.col < tile.width ∧ e.row < tile.height) :
    ∃ tile', tile.setPixels? edits = some tile' ∧ tile'.shape = tile.shape ∧
      (∀ col row band, band < 3 →
        (∀ e, PixelEdit.last? edits (col, row) = some e →
          tile'.get? col row band = some (e.colour.band band)) ∧
        ((∀ e ∈ edits, e.place ≠ (col, row)) →
          tile'.get? col row band = tile.get? col row band)) ∧
      (∀ col row band, tile'.get? col row band = none ↔
        ¬ (row < tile.height ∧ col < tile.width ∧ band < 3)) ∧
      tile'.countBlack = (pixelPlaces tile.height tile.width).countP (tile.isBlackAfter edits) ∧
      (tile.compare (some tile')).mismatchCount =
        (tile.places.countP fun p =>
          tile.get? p.col p.row p.band ≠ tile.sampleAfter? edits p.col p.row p.band) ∧
      (tile.compare (some tile')).mismatchCount ≤ 3 * (edits.map PixelEdit.place).toFinset.card ∧
      ((tile.compare (some tile')).matched = true ↔
        ∀ e ∈ edits, ∀ band, band < 3 →
          tile.sampleAfter? edits e.col e.row band = tile.get? e.col e.row band) := by
  rcases tile.exists_setPixels? edits hin with ⟨tile', hset, h⟩
  refine ⟨tile', hset, h.shape, ?_, ?_, h.countBlack, h.mismatchCount, h.mismatchCount_le,
    h.matched_iff_restored hin⟩
  · intro col row band hband
    constructor
    · intro e hlast
      rw [h.samples hband, sampleAfter?_of_last? hlast]
    · intro hnone
      rw [h.samples hband, sampleAfter?_of_not_edited hnone]
  · intro col row band
    rw [← Option.not_isSome_iff_eq_none, isSome_get?_iff, h.height, h.width]
    exact Iff.rfl

def repeatedEdits : List PixelEdit :=
  [⟨1, 0, ⟨9, 9, 9⟩⟩, ⟨0, 1, Colour.black⟩, ⟨1, 0, ⟨0, 7, 8⟩⟩]

theorem setPixels?_shows_last_edits_repeated :
    (∀ e ∈ repeatedEdits, e.col < (black 2).width ∧ e.row < (black 2).height) ∧
      ∃ tile', (black 2).setPixels? repeatedEdits = some tile' ∧ tile'.get? 1 0 1 = some 7 ∧
        tile'.get? 1 1 1 = (black 2).get? 1 1 1 ∧ tile'.countBlack = 3 ∧
        ((black 2).compare (some tile')).mismatchCount = 2 ∧
        ((black 2).compare (some tile')).matched = false := by
  have hin : ∀ e ∈ repeatedEdits, e.col < (black 2).width ∧ e.row < (black 2).height := by decide
  rcases setPixels?_shows_last_edits (black 2) repeatedEdits hin with
    ⟨tile', hset, _, hsamples, _, hblack, hcount, _, hmatched⟩
  refine ⟨hin, tile', hset, ?_, ?_, ?_, ?_, ?_⟩
  · exact (hsamples 1 0 1 (by decide)).1 ⟨1, 0, ⟨0, 7, 8⟩⟩ rfl
  · exact (hsamples 1 1 1 (by decide)).2 (by decide)
  · rw [hblack]
    decide +kernel
  · rw [hcount]
    decide +kernel
  · rw [Bool.eq_false_iff, ne_eq, hmatched]
    decide +kernel

end Tile
end TileAudit
