import TileAudit.Proofs.Comparison.Places

/-!
# Differences of tiles

Two tiles of one shape are compared sample by sample. The differing places are counted, and the
difference tells at every place how far the samples are apart. It tells different tiles apart, since
what was found is what was expected less the difference.
-/

namespace TileAudit

open SamplePlace

namespace Tile

/-- The places, in their order, at which two tiles have different samples. -/
def differingPlaces (expected actual : Tile) : List SamplePlace :=
  expected.places.filter fun p => expected.sample? p ≠ actual.sample? p

def mismatchOf (expected actual : Tile) (p : SamplePlace) : Mismatch :=
  ⟨p.col, p.row, p.band, (expected.sample? p).getD 0, (actual.sample? p).getD 0⟩

section

variable {expected actual : Tile} {p : SamplePlace}

theorem mem_differingPlaces :
    p ∈ expected.differingPlaces actual ↔
      p ∈ expected.places ∧ expected.sample? p ≠ actual.sample? p := by
  unfold differingPlaces
  rw [List.mem_filter, decide_eq_true_iff]

theorem length_differingPlaces (expected actual : Tile) :
    (expected.differingPlaces actual).length =
      expected.places.countP fun p => expected.sample? p ≠ actual.sample? p :=
  List.countP_eq_length_filter.symm

theorem differingPlaces_eq_nil_iff :
    expected.differingPlaces actual = [] ↔
      ∀ p ∈ expected.places, expected.sample? p = actual.sample? p := by
  unfold differingPlaces
  simp only [List.filter_eq_nil_iff, decide_eq_true_iff, Decidable.not_not]

variable (hshape : expected.shape = actual.shape)

include hshape

theorem exists_samples (hp : p ∈ expected.places) :
    ∃ e a, expected.sample? p = some e ∧ actual.sample? p = some a := by
  refine ⟨_, _, sample?_of_mem hp, sample?_of_mem ?_⟩
  rw [← places_eq_of_shape hshape]
  exact hp

theorem sample?_actual_ofOffset {i : Nat} (hi : i < expected.bytes.size) :
    actual.sample? (.ofOffset expected.width tileBands i) = some (actual.byteAt i) := by
  have hwidth : expected.width = actual.width := congrArg Prod.snd hshape
  have hheight : expected.height = actual.height := congrArg Prod.fst hshape
  rw [expected.size_eq, hheight, hwidth] at hi
  rw [hwidth]
  exact sample?_ofOffset hi

theorem map_ofOffset_differingOffsets :
    (expected.differingOffsets actual).map (.ofOffset expected.width tileBands) =
      expected.differingPlaces actual := by
  unfold differingOffsets differingPlaces places
  rw [← map_ofOffset_range, ← expected.size_eq, List.filter_map]
  refine congrArg (List.map _) (List.filter_congr fun i hi => ?_)
  have hi' := List.mem_range.mp hi
  have hexpected := sample?_ofOffset (expected.size_eq ▸ hi')
  have hactual := sample?_actual_ofOffset hshape hi'
  rw [Bool.eq_iff_iff, bne_iff_ne, Function.comp_apply, decide_eq_true_iff, hexpected, hactual,
    ne_eq, ne_eq, Option.some.injEq]

theorem mismatchAt_eq {i : Nat} (hi : i ∈ expected.differingOffsets actual) :
    expected.mismatchAt actual i =
      expected.mismatchOf actual (.ofOffset expected.width tileBands i) := by
  have hi' : i < expected.bytes.size := List.mem_range.mp (List.mem_filter.mp hi).1
  unfold mismatchOf
  rw [sample?_ofOffset (expected.size_eq ▸ hi'), sample?_actual_ofOffset hshape hi']
  rfl

theorem preview_eq (limit : Nat) :
    ((expected.differingOffsets actual).take limit).map (expected.mismatchAt actual) =
      ((expected.differingPlaces actual).take limit).map (expected.mismatchOf actual) := by
  rw [← map_ofOffset_differingOffsets hshape, ← List.map_take, List.map_map]
  exact List.map_congr_left fun i hi => mismatchAt_eq hshape (List.mem_of_mem_take hi)

theorem compare_cases :
    (expected.compare (some actual) = .equal ∧ expected.differingPlaces actual = []) ∨
    (expected.compare (some actual) =
        .different (expected.difference actual) (expected.differingPlaces actual).length
          (((expected.differingPlaces actual).take previewLimit).map
            (expected.mismatchOf actual)) ∧
      expected.differingPlaces actual ≠ []) := by
  by_cases hbytes : expected.bytes = actual.bytes
  · refine Or.inl ⟨compare_equal hshape hbytes, differingPlaces_eq_nil_iff.mpr ?_⟩
    intro p hp
    exact (agrees_of_eq hshape hbytes).samples_eq hp
  · have hdata : expected.bytes.data ≠ actual.bytes.data := fun h => hbytes (ByteArray.ext h)
    refine Or.inr ⟨?_, ?_⟩
    · unfold compare
      simp only [if_pos hshape, if_neg hdata]
      rw [preview_eq hshape, ← map_ofOffset_differingOffsets hshape, List.length_map]
    · intro hnone
      exact hbytes (agrees_of_samples hshape (differingPlaces_eq_nil_iff.mp hnone)).bytes_eq

theorem mismatchCount_eq :
    (expected.compare (some actual)).mismatchCount = (expected.differingPlaces actual).length := by
  rcases compare_cases hshape with ⟨hcompare, hplaces⟩ | ⟨hcompare, _⟩
  · rw [hcompare, hplaces]
    rfl
  · rw [hcompare]
    rfl

theorem mismatches_eq :
    (expected.compare (some actual)).mismatches =
      ((expected.differingPlaces actual).take previewLimit).map (expected.mismatchOf actual) := by
  rcases compare_cases hshape with ⟨hcompare, hplaces⟩ | ⟨hcompare, _⟩
  · rw [hcompare, hplaces]
    rfl
  · rw [hcompare]
    rfl

end

/-!
## Entries of the difference

Two bytes are never so far apart that their difference would not fit sixteen bits, so the difference
is zero only where the samples are equal and can be taken back.
-/

theorem toInt_sub_of_bytes (e a : UInt8) :
    (Int16.ofInt e.toNat - Int16.ofInt a.toNat).toInt = (e.toNat : Int) - a.toNat := by
  have he := e.toNat_lt
  have ha := a.toNat_lt
  rw [Int16.toInt_sub, Int16.toInt_ofInt, Int16.toInt_ofInt]
  simp only [Int.bmod_def, Int16.size]
  omega

section

variable {expected actual : Tile} {p : SamplePlace} (hshape : expected.shape = actual.shape)

include hshape

theorem delta?_difference {e a : UInt8} (hp : p ∈ expected.places)
    (he : expected.sample? p = some e) (ha : actual.sample? p = some a) :
    (expected.difference actual).delta? p = some ((e.toNat : Int) - a.toNat) := by
  have hwidth : expected.width = actual.width := congrArg Prod.snd hshape
  have hp' : p ∈ actual.places := places_eq_of_shape hshape ▸ hp
  have hindex := mem_all.mp hp
  have hplace : Samples.offset expected.width tileBands p.row p.col p.band <
      expected.height * expected.width * tileBands :=
    Samples.offset_lt hindex.1 hindex.2.1 hindex.2.2
  rw [sample?_of_mem hp] at he
  rw [sample?_of_mem hp', ← hwidth] at ha
  cases he
  cases ha
  unfold Difference.delta? difference
  rw [if_pos hindex, Array.getElem?_eq_getElem (by rw [Array.size_ofFn]; exact hplace),
    Array.getElem_ofFn]

theorem delta?_ne_zero_iff (hp : p ∈ expected.places) :
    (expected.difference actual).delta? p ≠ some 0 ↔ expected.sample? p ≠ actual.sample? p := by
  rcases exists_samples hshape hp with ⟨e, a, he, ha⟩
  rw [delta?_difference hshape hp he ha, he, ha, ne_eq, ne_eq, Option.some.injEq, Option.some.injEq,
    ← UInt8.toNat_inj]
  omega

theorem countP_delta? :
    (expected.places.countP fun p => (expected.difference actual).delta? p ≠ some 0) =
      (expected.differingPlaces actual).length := by
  rw [length_differingPlaces]
  refine List.countP_congr fun p hp => ?_
  rw [decide_eq_true_iff, decide_eq_true_iff]
  exact delta?_ne_zero_iff hshape hp

theorem exists_delta (hp : p ∈ expected.places) :
    ∃ e a v, expected.sample? p = some e ∧ actual.sample? p = some a ∧
      (expected.difference actual).delta? p = some v ∧ v = (e.toNat : Int) - a.toNat ∧
      (a.toNat : Int) = e.toNat - v ∧ -255 ≤ v ∧ v ≤ 255 ∧
      v = (Int16.ofInt e.toNat - Int16.ofInt a.toNat).toInt := by
  rcases exists_samples hshape hp with ⟨e, a, he, ha⟩
  have hlow := e.toNat_lt
  have hhigh := a.toNat_lt
  refine ⟨e, a, _, he, ha, delta?_difference hshape hp he ha, rfl, ?_, ?_, ?_, ?_⟩
  · omega
  · omega
  · omega
  · exact (toInt_sub_of_bytes e a).symm

theorem difference?_eq_none_iff :
    (expected.compare (some actual)).difference? = none ↔ expected.differingPlaces actual = [] := by
  rcases compare_cases hshape with ⟨hcompare, hplaces⟩ | ⟨hcompare, hplaces⟩
  · rw [hcompare]
    exact iff_of_true rfl hplaces
  · rw [hcompare]
    exact iff_of_false (by simp [Comparison.difference?]) hplaces

theorem difference?_of_differing (h : expected.differingPlaces actual ≠ []) :
    (expected.compare (some actual)).difference? = some (expected.difference actual) := by
  rcases compare_cases hshape with ⟨_, hplaces⟩ | ⟨hcompare, _⟩
  · exact absurd hplaces h
  · rw [hcompare]
    rfl

theorem matched_iff :
    (expected.compare (some actual)).matched = true ↔ expected.differingPlaces actual = [] := by
  rcases compare_cases hshape with ⟨hcompare, hplaces⟩ | ⟨hcompare, hplaces⟩
  · rw [hcompare]
    exact iff_of_true rfl hplaces
  · rw [hcompare]
    exact iff_of_false (by simp [Comparison.matched]) hplaces

end

theorem eq_of_difference? {expected actual actual' : Tile} (hshape : expected.shape = actual.shape)
    (hshape' : expected.shape = actual'.shape)
    (h : (expected.compare (some actual)).difference? =
      (expected.compare (some actual')).difference?) : actual = actual' := by
  have hsamples : ∀ p ∈ expected.places, actual.sample? p = actual'.sample? p := by
    intro p hp
    by_cases hnone : expected.differingPlaces actual = []
    · have hnone' := (difference?_eq_none_iff hshape).mpr hnone
      rw [h, difference?_eq_none_iff hshape'] at hnone'
      rw [← differingPlaces_eq_nil_iff.mp hnone p hp, differingPlaces_eq_nil_iff.mp hnone' p hp]
    · have hsome := difference?_of_differing hshape hnone
      have hnone' : expected.differingPlaces actual' ≠ [] := by
        intro hnil
        rw [h, (difference?_eq_none_iff hshape').mpr hnil] at hsome
        cases hsome
      rw [h, difference?_of_differing hshape' hnone'] at hsome
      have hdifference := Option.some.inj hsome
      rcases exists_samples hshape hp with ⟨e, a, he, ha⟩
      rcases exists_samples hshape' hp with ⟨e', a', he', ha'⟩
      have hdelta := delta?_difference hshape' hp he' ha'
      rw [hdifference, delta?_difference hshape hp he ha, Option.some.injEq] at hdelta
      rw [he] at he'
      cases he'
      rw [ha, ha', Option.some.injEq, ← UInt8.toNat_inj]
      omega
  apply Agrees.eq
  apply agrees_of_samples (hshape.symm.trans hshape')
  rw [← places_eq_of_shape hshape]
  exact hsamples

/-- An absent tile, or one of another shape, is a plain failure. A tile of the expected shape
matches when every sample does; else the difference holds the expected sample less the one that was
found, at every place, and as many samples are counted as differ. No two tiles of the expected shape
have one difference. -/
theorem compare_tells_difference (expected : Tile) :
    (expected.compare none).IsPlainFailure ∧
    (∀ actual, expected.shape ≠ actual.shape → (expected.compare (some actual)).IsPlainFailure) ∧
    (∀ actual, expected.shape = actual.shape →
      ((expected.compare (some actual)).matched = true ↔
        ∀ p ∈ expected.places, expected.sample? p = actual.sample? p) ∧
      ((expected.compare (some actual)).matched = true →
        (expected.compare (some actual)).mismatchCount = 0 ∧
        (expected.compare (some actual)).difference? = none) ∧
      ((expected.compare (some actual)).matched = false →
        ∃ d, (expected.compare (some actual)).difference? = some d ∧
          (d.height, d.width) = expected.shape ∧
          (∀ p ∈ expected.places, ∃ e a v, expected.sample? p = some e ∧ actual.sample? p = some a ∧
            d.delta? p = some v ∧ v = (e.toNat : Int) - a.toNat ∧ (a.toNat : Int) = e.toNat - v ∧
            -255 ≤ v ∧ v ≤ 255 ∧ v = (Int16.ofInt e.toNat - Int16.ofInt a.toNat).toInt) ∧
          (expected.compare (some actual)).mismatchCount =
            (expected.places.countP fun p => expected.sample? p ≠ actual.sample? p) ∧
          (expected.compare (some actual)).mismatchCount =
            (expected.places.countP fun p => d.delta? p ≠ some 0) ∧
          1 ≤ (expected.compare (some actual)).mismatchCount)) ∧
    (∀ actual actual', expected.shape = actual.shape → expected.shape = actual'.shape →
      (expected.compare (some actual)).difference? =
        (expected.compare (some actual')).difference? → actual = actual') := by
  refine ⟨Comparison.isPlainFailure_absent, ?_, ?_, ?_⟩
  · intro actual hshape
    rw [compare_shapesDiffer hshape]
    exact Comparison.isPlainFailure_shapesDiffer
  · intro actual hshape
    refine ⟨(matched_iff hshape).trans differingPlaces_eq_nil_iff, ?_, ?_⟩
    · intro hmatched
      have hnone := (matched_iff hshape).mp hmatched
      constructor
      · rw [mismatchCount_eq hshape, hnone]
        rfl
      · exact (difference?_eq_none_iff hshape).mpr hnone
    · intro hfailed
      have hsome : expected.differingPlaces actual ≠ [] := by
        intro hnone
        rw [(matched_iff hshape).mpr hnone] at hfailed
        cases hfailed
      refine ⟨_, difference?_of_differing hshape hsome, rfl, ?_, ?_, ?_, ?_⟩
      · intro p hp
        exact exists_delta hshape hp
      · rw [mismatchCount_eq hshape, length_differingPlaces]
      · rw [mismatchCount_eq hshape, countP_delta? hshape]
      · rw [mismatchCount_eq hshape]
        exact List.length_pos_iff.mpr hsome
  · intro actual actual' hshape hshape'
    exact eq_of_difference? hshape hshape'

end Tile
end TileAudit
