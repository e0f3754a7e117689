import TileAudit.Proofs.Tile.Images

/-!
# Places of samples

A sample of a tile is at a row, a column and a band. The bytes of a tile are its samples in the
order of their places: row by row, in a row from left to right, and in a pixel band by band.
-/

namespace TileAudit

structure SamplePlace where
  row : Nat
  col : Nat
  band : Nat
deriving DecidableEq, Repr

namespace SamplePlace

/-- One place is before another: by row, in a row by column, and in a pixel by band. -/
def Precedes (p q : SamplePlace) : Prop :=
  p.row < q.row ∨ (p.row = q.row ∧ (p.col < q.col ∨ (p.col = q.col ∧ p.band < q.band)))

def all (height width bands : Nat) : List SamplePlace :=
  (List.range height).flatMap fun row =>
    (List.range width).flatMap fun col =>
      (List.range bands).map fun band => ⟨row, col, band⟩

/-- The place whose sample is at an offset among the bytes. -/
def ofOffset (width bands i : Nat) : SamplePlace :=
  ⟨i / bands / width, i / bands % width, i % bands⟩

theorem mem_all {height width bands : Nat} {p : SamplePlace} :
    p ∈ all height width bands ↔ p.row < height ∧ p.col < width ∧ p.band < bands := by
  rcases p with ⟨row, col, band⟩
  simp only [all, List.mem_flatMap, List.mem_map, List.mem_range, mk.injEq]
  constructor
  · rintro ⟨row', hrow, col', hcol, band', hband, rfl, rfl, rfl⟩
    exact ⟨hrow, hcol, hband⟩
  · rintro ⟨hrow, hcol, hband⟩
    exact ⟨row, hrow, col, hcol, band, hband, rfl, rfl, rfl⟩

theorem pairwise_all (height width bands : Nat) : (all height width bands).Pairwise Precedes := by
  unfold all
  rw [List.pairwise_flatMap]
  constructor
  · intro row _
    rw [List.pairwise_flatMap]
    constructor
    · intro col _
      rw [List.pairwise_map]
      exact List.pairwise_lt_range.imp fun h => Or.inr ⟨rfl, Or.inr ⟨rfl, h⟩⟩
    · refine List.pairwise_lt_range.imp ?_
      intro col col' hcol p hp q hq
      rcases List.mem_map.mp hp with ⟨_, _, rfl⟩
      rcases List.mem_map.mp hq with ⟨_, _, rfl⟩
      exact Or.inr ⟨rfl, Or.inl hcol⟩
  · refine List.pairwise_lt_range.imp ?_
    intro row row' hrow p hp q hq
    rcases List.mem_flatMap.mp hp with ⟨_, _, hp⟩
    rcases List.mem_flatMap.mp hq with ⟨_, _, hq⟩
    rcases List.mem_map.mp hp with ⟨_, _, rfl⟩
    rcases List.mem_map.mp hq with ⟨_, _, rfl⟩
    exact Or.inl hrow

theorem Precedes.asymm {p q : SamplePlace} (h : p.Precedes q) : ¬ q.Precedes p := by
  unfold Precedes at h ⊢
  omega

theorem nodup_all (height width bands : Nat) : (all height width bands).Nodup := by
  refine (pairwise_all height width bands).imp ?_
  rintro p q hprecedes rfl
  exact hprecedes.asymm hprecedes

theorem range_mul (n m : Nat) :
    List.range (n * m) = (List.range n).flatMap fun i => (List.range m).map fun j => i * m + j := by
  induction n with
  | zero => simp
  | succ n ih =>
      rw [Nat.succ_mul, List.range_add, List.range_succ, List.flatMap_append, ih]
      simp

theorem ofOffset_offset (width bands : Nat) {row col band : Nat} (hcol : col < width)
    (hband : band < bands) :
    ofOffset width bands (Samples.offset width bands row col band) = ⟨row, col, band⟩ := by
  unfold ofOffset
  rw [Samples.offset_div_bands width row col hband, Samples.offset_mod_bands width row col hband,
    Nat.mul_add_mod_of_lt hcol, Samples.mul_add_div_of_lt hcol]

theorem offset_ofOffset (width bands i : Nat) :
    Samples.offset width bands (ofOffset width bands i).row (ofOffset width bands i).col
      (ofOffset width bands i).band = i :=
  Samples.offset_of_place width bands i

theorem map_ofOffset_range (height width bands : Nat) :
    (List.range (height * width * bands)).map (ofOffset width bands) = all height width bands := by
  rw [range_mul (height * width) bands, range_mul height width]
  unfold all
  simp only [List.flatMap_assoc, List.map_flatMap, List.flatMap_map, List.map_map]
  refine congrArg (List.range height).flatMap (funext fun row => ?_)
  simp only [List.flatMap_def]
  refine congrArg List.flatten (List.map_congr_left fun col hcol => ?_)
  refine List.map_congr_left fun band hband => ?_
  exact ofOffset_offset width bands (List.mem_range.mp hcol) (List.mem_range.mp hband)

end SamplePlace

namespace Tile

def sample? (tile : Tile) (p : SamplePlace) : Option UInt8 :=
  tile.get? p.col p.row p.band

def places (tile : Tile) : List SamplePlace :=
  SamplePlace.all tile.height tile.width tileBands

variable {tile tile' : Tile} {p : SamplePlace}

theorem places_eq_of_shape (h : tile.shape = tile'.shape) : tile.places = tile'.places := by
  have hheight : tile.height = tile'.height := congrArg Prod.fst h
  have hwidth : tile.width = tile'.width := congrArg Prod.snd h
  unfold places
  rw [hheight, hwidth]

theorem sample?_of_mem (h : p ∈ tile.places) :
    tile.sample? p = some (tile.byteAt (Samples.offset tile.width tileBands p.row p.col p.band)) := by
  rcases SamplePlace.mem_all.mp h with ⟨hrow, hcol, hband⟩
  have hplace : Samples.offset tile.width tileBands p.row p.col p.band < tile.bytes.size := by
    rw [tile.size_eq]
    exact Samples.offset_lt hrow hcol hband
  have hindex : tile.sample? p =
      Bytes.at? tile.bytes (Samples.offset tile.width tileBands p.row p.col p.band) :=
    Samples.get?_eq_at? tile.samples hrow hcol hband
  have hbyte : Bytes.at? tile.bytes (Samples.offset tile.width tileBands p.row p.col p.band) =
      some (tile.bytes.get _ hplace) := dif_pos hplace
  rw [hindex, byteAt, Bytes.atD, hbyte]
  rfl

theorem sample?_ofOffset {i : Nat} (h : i < tile.height * tile.width * tileBands) :
    tile.sample? (.ofOffset tile.width tileBands i) = some (tile.byteAt i) := by
  have hmem : SamplePlace.ofOffset tile.width tileBands i ∈ tile.places :=
    SamplePlace.mem_all.mpr (Samples.index_of_place h)
  rw [sample?_of_mem hmem, SamplePlace.offset_ofOffset]

theorem agrees_of_samples (hshape : tile.shape = tile'.shape)
    (h : ∀ p ∈ tile.places, tile.sample? p = tile'.sample? p) : Agrees tile tile' where
  height := congrArg Prod.fst hshape
  width := congrArg Prod.snd hshape
  samples := by
    intro row col band hrow hcol hband
    exact h ⟨row, col, band⟩ (SamplePlace.mem_all.mpr ⟨hrow, hcol, hband⟩)

theorem Agrees.samples_eq (h : Agrees tile tile') (hp : p ∈ tile.places) :
    tile.sample? p = tile'.sample? p := by
  rcases SamplePlace.mem_all.mp hp with ⟨hrow, hcol, hband⟩
  exact h.samples _ _ _ hrow hcol hband

theorem Agrees.eq (h : Agrees tile tile') : tile = tile' := by
  have hbytes := h.bytes_eq
  have hheight := h.height
  have hwidth := h.width
  rcases tile with ⟨height, width, bytes, hsize⟩
  rcases tile' with ⟨height', width', bytes', hsize'⟩
  cases hheight
  cases hwidth
  cases hbytes
  rfl

end Tile

namespace Difference

def delta? (d : Difference) (p : SamplePlace) : Option Int :=
  if p.row < d.height ∧ p.col < d.width ∧ p.band < tileBands then
    d.deltas[Samples.offset d.width tileBands p.row p.col p.band]?
  else
    none

end Difference
end TileAudit
