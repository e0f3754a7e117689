import TileAudit.Proofs.Comparison.Differences

/-!
# Listed mismatches

Of the samples that differ the first few are listed. A single pass over the samples finds them: it
counts every differing sample, and lists it while the list has room. So the list is in the order of
the places and leaves no earlier place out, and it does not depend on which tile was expected.
-/

namespace TileAudit

open SamplePlace

namespace Mismatch

def place (m : Mismatch) : SamplePlace :=
  ⟨m.row, m.col, m.band⟩

def swapped (m : Mismatch) : Mismatch :=
  { m with expected := m.actual, actual := m.expected }

theorem delta_swapped (m : Mismatch) : m.swapped.delta = -m.delta :=
  (Int.neg_sub _ _).symm

end Mismatch

/-!
## One pass over the samples

The pass is written as a fold over the places. What it has gathered after some places is the number
of the differing ones among them and the first ten.
-/

/-- What a pass over the samples has gathered so far. -/
structure Tally where
  count : Nat
  preview : List Mismatch

namespace Tally

def start : Tally :=
  ⟨0, []⟩

def add (expected actual : Tile) (tally : Tally) (p : SamplePlace) : Tally :=
  if expected.sample? p = actual.sample? p then tally
  else
    { count := tally.count + 1
      preview :=
        if tally.preview.length < previewLimit then
          tally.preview ++ [expected.mismatchOf actual p]
        else tally.preview }

structure IsOf (expected actual : Tile) (seen : List SamplePlace) (tally : Tally) : Prop where
  count : tally.count =
    (seen.filter fun p => expected.sample? p ≠ actual.sample? p).length
  preview : tally.preview =
    ((seen.filter fun p => expected.sample? p ≠ actual.sample? p).take previewLimit).map
      (expected.mismatchOf actual)

variable {expected actual : Tile} {seen : List SamplePlace} {tally : Tally}

theorem isOf_start (expected actual : Tile) : IsOf expected actual [] start :=
  ⟨rfl, rfl⟩

theorem IsOf.add (h : IsOf expected actual seen tally) (p : SamplePlace) :
    IsOf expected actual (seen ++ [p]) (tally.add expected actual p) := by
  by_cases hsame : expected.sample? p = actual.sample? p
  · have hseen : ((seen ++ [p]).filter fun p => expected.sample? p ≠ actual.sample? p) =
        seen.filter fun p => expected.sample? p ≠ actual.sample? p := by
      simp [hsame]
    unfold Tally.add
    rw [if_pos hsame]
    constructor
    · rw [hseen]
      exact h.count
    · rw [hseen]
      exact h.preview
  · have hseen : ((seen ++ [p]).filter fun p => expected.sample? p ≠ actual.sample? p) =
        (seen.filter fun p => expected.sample? p ≠ actual.sample? p) ++ [p] := by
      simp [hsame]
    unfold Tally.add
    rw [if_neg hsame]
    constructor
    · rw [hseen, List.length_append, ← h.count]
      rfl
    · have hlength := congrArg List.length h.preview
      rw [List.length_map, List.length_take, ← h.count] at hlength
      rw [hseen, List.take_append, List.map_append, ← h.preview, ← h.count]
      dsimp only
      by_cases hroom : tally.preview.length < previewLimit
      · have hcount : [p].length ≤ previewLimit - tally.count := by
          rw [List.length_singleton]
          omega
        rw [if_pos hroom, List.take_of_length_le hcount]
        rfl
      · have hcount : previewLimit - tally.count = 0 := by omega
        rw [if_neg hroom, hcount, List.take_zero, List.map_nil, List.append_nil]

theorem IsOf.foldl (h : IsOf expected actual seen tally) (places : List SamplePlace) :
    IsOf expected actual (seen ++ places) (places.foldl (Tally.add expected actual) tally) := by
  induction places generalizing seen tally with
  | nil =>
      rw [List.append_nil]
      exact h
  | cons p rest ih =>
      have hrest := ih (h.add p)
      rw [List.append_assoc] at hrest
      exact hrest

end Tally

namespace Tile

def tally (expected actual : Tile) : Tally :=
  expected.places.foldl (Tally.add expected actual) .start

theorem isOf_tally (expected actual : Tile) :
    Tally.IsOf expected actual expected.places (expected.tally actual) :=
  (Tally.isOf_start expected actual).foldl expected.places

section

variable {expected actual : Tile}

theorem pairwise_differingPlaces (expected actual : Tile) :
    (expected.differingPlaces actual).Pairwise Precedes :=
  (pairwise_all _ _ _).filter _

theorem map_place_mismatchOf (places : List SamplePlace) :
    (places.map (expected.mismatchOf actual)).map Mismatch.place = places := by
  rw [List.map_map]
  exact List.map_id places

theorem mem_take_of_precedes {limit : Nat} {p q : SamplePlace}
    (hq : q ∈ (expected.differingPlaces actual).take limit)
    (hp : p ∈ expected.differingPlaces actual) (h : p.Precedes q) :
    p ∈ (expected.differingPlaces actual).take limit := by
  have hsorted := pairwise_differingPlaces expected actual
  rw [← List.take_append_drop limit (expected.differingPlaces actual)] at hp hsorted
  rcases List.mem_append.mp hp with hfront | hback
  · exact hfront
  · exact absurd ((List.pairwise_append.mp hsorted).2.2 q hq p hback) h.asymm

variable (hshape : expected.shape = actual.shape)

include hshape

theorem exists_bytes_of_differing {p : SamplePlace} (hp : p ∈ expected.differingPlaces actual) :
    expected.sample? p = some (expected.mismatchOf actual p).expected ∧
      actual.sample? p = some (expected.mismatchOf actual p).actual ∧
      (expected.mismatchOf actual p).delta ≠ 0 ∧
      (expected.difference actual).delta? p = some (expected.mismatchOf actual p).delta := by
  rcases mem_differingPlaces.mp hp with ⟨hmem, hne⟩
  rcases exists_samples hshape hmem with ⟨e, a, he, ha⟩
  have hmismatch : expected.mismatchOf actual p = ⟨p.col, p.row, p.band, e, a⟩ := by
    unfold mismatchOf
    rw [he, ha]
    rfl
  have hdelta := delta?_difference hshape hmem he ha
  rw [← delta?_ne_zero_iff hshape hmem, hdelta] at hne
  rw [hmismatch]
  exact ⟨he, ha, fun hzero => hne (congrArg some hzero), hdelta⟩

/-!
## Tiles exchanged

With the tiles exchanged the same places differ, and the sign of every difference changes.
-/

theorem differingPlaces_swap :
    actual.differingPlaces expected = expected.differingPlaces actual := by
  unfold differingPlaces
  rw [places_eq_of_shape hshape]
  refine List.filter_congr fun p _ => ?_
  rw [Bool.eq_iff_iff, decide_eq_true_iff, decide_eq_true_iff]
  exact ne_comm

theorem delta?_swap (p : SamplePlace) :
    (actual.difference expected).delta? p = ((expected.difference actual).delta? p).map (-·) := by
  have hplaces := places_eq_of_shape hshape
  by_cases hp : p ∈ expected.places
  · rcases exists_samples hshape hp with ⟨e, a, he, ha⟩
    rw [delta?_difference hshape hp he ha, delta?_difference hshape.symm (hplaces ▸ hp) ha he,
      Option.map_some, Int.neg_sub]
  · have hp' : p ∉ actual.places := hplaces ▸ hp
    have hnone := mt mem_all.mpr hp
    have hnone' := mt mem_all.mpr hp'
    unfold Difference.delta? difference
    rw [if_neg hnone, if_neg hnone']
    rfl

theorem difference?_swap :
    (actual.compare (some expected)).difference?.map Difference.delta? =
      (expected.compare (some actual)).difference?.map fun d p => (d.delta? p).map (-·) := by
  by_cases hnone : expected.differingPlaces actual = []
  · rw [(difference?_eq_none_iff hshape).mpr hnone,
      (difference?_eq_none_iff hshape.symm).mpr ((differingPlaces_swap hshape).trans hnone)]
    rfl
  · have hnone' : actual.differingPlaces expected ≠ [] := by
      rw [differingPlaces_swap hshape]
      exact hnone
    rw [difference?_of_differing hshape hnone, difference?_of_differing hshape.symm hnone']
    exact congrArg some (funext (delta?_swap hshape))

theorem mismatches_swap :
    (actual.compare (some expected)).mismatches =
      (expected.compare (some actual)).mismatches.map Mismatch.swapped := by
  rw [mismatches_eq hshape, mismatches_eq hshape.symm, differingPlaces_swap hshape, List.map_map]
  rfl

end

/-- The mismatches of two tiles of one shape are the first ten differing samples in the order of
their places, and what a single pass counts and lists. They carry the bytes of both tiles and the
entries of the difference. With the tiles exchanged they are at the same places, and their
differences change the sign. -/
theorem compare_lists_first_differences {expected actual : Tile}
    (hshape : expected.shape = actual.shape) :
    (expected.compare (some actual)).mismatches.length =
      min 10 (expected.compare (some actual)).mismatchCount ∧
    (expected.compare (some actual)).mismatches.map Mismatch.place =
      (expected.places.filter fun p => expected.sample? p ≠ actual.sample? p).take 10 ∧
    (expected.compare (some actual)).mismatches.Pairwise
      (fun m m' => m.place.Precedes m'.place) ∧
    (∀ m ∈ (expected.compare (some actual)).mismatches,
      expected.get? m.col m.row m.band = some m.expected ∧
      actual.get? m.col m.row m.band = some m.actual ∧ m.delta ≠ 0 ∧
      (∃ d, (expected.compare (some actual)).difference? = some d ∧
        d.delta? m.place = some m.delta) ∧
      ∀ p ∈ expected.places, expected.sample? p ≠ actual.sample? p → p.Precedes m.place →
        ∃ m' ∈ (expected.compare (some actual)).mismatches, m'.place = p) ∧
    (expected.compare (some actual)).mismatchCount = (expected.tally actual).count ∧
    (expected.compare (some actual)).mismatches = (expected.tally actual).preview ∧
    (actual.compare (some expected)).mismatches =
      (expected.compare (some actual)).mismatches.map Mismatch.swapped ∧
    (actual.compare (some expected)).mismatches.map Mismatch.delta =
      (expected.compare (some actual)).mismatches.map (fun m => -m.delta) ∧
    (actual.compare (some expected)).difference?.map Difference.delta? =
      (expected.compare (some actual)).difference?.map fun d p => (d.delta? p).map (-·) := by
  have hlist := mismatches_eq hshape
  refine ⟨?_, ?_, ?_, ?_, ?_, ?_, mismatches_swap hshape, ?_, difference?_swap hshape⟩
  · rw [hlist, mismatchCount_eq hshape, List.length_map, List.length_take]
    rfl
  · rw [hlist, map_place_mismatchOf]
    rfl
  · rw [hlist, List.pairwise_map]
    exact (pairwise_differingPlaces expected actual).sublist (List.take_sublist _ _)
  · intro m hm
    rw [hlist] at hm
    rcases List.mem_map.mp hm with ⟨q, hq, rfl⟩
    have hdiffers := List.mem_of_mem_take hq
    rcases exists_bytes_of_differing hshape hdiffers with ⟨he, ha, hne, hdelta⟩
    refine ⟨he, ha, hne, ⟨_, difference?_of_differing hshape ?_, hdelta⟩, ?_⟩
    · exact List.ne_nil_of_mem hdiffers
    · intro p hp hpne hbefore
      have hlisted := mem_take_of_precedes hq (mem_differingPlaces.mpr ⟨hp, hpne⟩) hbefore
      refine ⟨expected.mismatchOf actual p, ?_, rfl⟩
      rw [hlist]
      exact List.mem_map.mpr ⟨p, hlisted, rfl⟩
  · rw [mismatchCount_eq hshape]
    exact (isOf_tally expected actual).count.symm
  · rw [hlist]
    exact (isOf_tally expected actual).preview.symm
  · rw [mismatches_swap hshape, List.map_map]
    exact List.map_congr_left fun m _ => m.delta_swapped

def whiteTile : Tile :=
  ofFn 2 2 fun _ _ => ⟨255, 255, 255⟩

theorem compare_lists_first_differences_white :
    (black 2).shape = whiteTile.shape ∧
      ((black 2).compare (some whiteTile)).mismatchCount = 12 ∧
      ((black 2).compare (some whiteTile)).mismatches.length = 10 ∧
      (whiteTile.compare (some (black 2))).mismatches.map Mismatch.delta =
        List.replicate 10 255 := by
  have hshape : (black 2).shape = whiteTile.shape := rfl
  have hcount : ((black 2).compare (some whiteTile)).mismatchCount = 12 := by decide +kernel
  have hdeltas : (((black 2).compare (some whiteTile)).mismatches.map fun m => -m.delta) =
      List.replicate 10 255 := by decide +kernel
  rcases compare_lists_first_differences hshape with ⟨hlength, _, _, _, _, _, _, hswapped, _⟩
  rw [hcount] at hlength
  exact ⟨hshape, hcount, hlength, hswapped.trans hdeltas⟩

end Tile
end TileAudit
