import TileAudit.Proofs.GeoTiff.Decoding
import TileAudit.Proofs.Tiff.Written
import TileAudit.Tiff.Codec

/-!
# Pictures in tagged image files and back

A picture that is written in one strip is found again with its shape and its tags, and its samples
come back through every way of packing. So these files are as good as those of any library.
-/

namespace TileAudit
namespace Tiff

variable {picture : GeoTiff.Picture} {dir : Directory} {src : ByteArray} {size : Nat}

/-!
## The tags of a picture

The three tags are further fields beside those of the image, under numbers that no other field has.
-/

theorem admits_tagFields (picture : GeoTiff.Picture) :
    (formOf picture).Admits (tagFields picture) := by
  refine ⟨?_, ?_, ?_, ?_⟩
  · intro size
    show List.Nodup [Tag.imageWidth, .imageLength, .bitsPerSample, .compression, .photometric,
      .stripOffsets, .samplesPerPixel, .rowsPerStrip, .stripByteCounts, .sampleFormat, .pixelScale,
      .tiepoint, .geoKeys]
    decide
  · show Tag.predictor ∉ [Tag.pixelScale, .tiepoint, .geoKeys]
    decide
  · show Tag.planarConfiguration ∉ [Tag.pixelScale, .tiepoint, .geoKeys]
    decide
  · show 3 < 1000
    decide

section

variable (h : Describes dir src ((formOf picture).entries size (tagFields picture)))

include h

theorem doublesOf?_of_describes {tag : Tag} {values : List Float}
    (hmem : (tag, Value.doubles values) ∈ tagFields picture) :
    doublesOf? dir src tag = some values := by
  rcases h.exists_field? ((admits_tagFields picture).distinct size)
    (mem_entries_of_further hmem) with ⟨f, hfield, hcarries⟩
  unfold doublesOf?
  rw [hfield]
  exact hcarries.doubles?

theorem shortsOf?_of_describes {tag : Tag} {values : List UInt16}
    (hmem : (tag, Value.shorts (values.map UInt16.toNat)) ∈ tagFields picture) :
    shortsOf? dir src tag = some values := by
  have hsmall : ∀ n ∈ values.map UInt16.toNat, n < 65536 := by
    intro n hn
    rcases List.mem_map.mp hn with ⟨key, _, rfl⟩
    exact key.toNat_lt
  rcases h.exists_field? ((admits_tagFields picture).distinct size)
    (mem_entries_of_further hmem) with ⟨f, hfield, hcarries⟩
  have hnaturals : dir.naturals? src f = some (values.map UInt16.toNat) :=
    hcarries.naturals? hsmall (Or.inl rfl)
  have hall : (values.map UInt16.toNat).all (· < 0x10000) = true :=
    List.all_eq_true.mpr fun n hn => decide_eq_true (hsmall n hn)
  have hback : (values.map UInt16.toNat).map UInt16.ofNat = values := by
    rw [List.map_map]
    have hid : UInt16.ofNat ∘ UInt16.toNat = id := by
      funext key
      exact UInt16.ofNat_toNat
    rw [hid, List.map_id]
  unfold shortsOf?
  simp only [hfield, hnaturals, Option.bind_eq_bind, Option.bind_some, guard, hall, if_true, hback]
  rfl

end

theorem isStatable_formOf (h : picture.IsWhole) : (formOf picture).IsStatable (.rgb 8) := by
  have hwidth : picture.width < 4294967296 := Nat.lt_succ_of_le h.width.2
  have hheight : picture.height < 4294967296 := Nat.lt_succ_of_le h.height.2
  exact ⟨⟨h.width.1, hwidth⟩, ⟨h.height.1, hheight⟩, (by decide : 0 < 3 ∧ 3 < 65536),
    (by decide : 0 < 8 ∧ 8 < 65536), (by decide : 1 < 65536), rfl⟩

theorem size_samples (h : picture.IsWhole) :
    picture.samples.size = picture.height * ((picture.width * tileBands * 8 + 7) / 8) := by
  have hrow : (picture.width * tileBands * 8 + 7) / 8 = picture.width * 3 := by
    unfold tileBands
    omega
  rw [h.samples, hrow, Nat.mul_comm picture.height, Nat.mul_comm picture.width]

theorem parts_of_encode (h : encode picture = .ok src) :
    src = write .little (formOf picture) picture.samples (tagFields picture) ∧
      src.size < sizeLimit := by
  unfold encode at h
  by_cases hsize : (write .little (formOf picture) picture.samples (tagFields picture)).size <
      sizeLimit
  · rw [if_pos hsize] at h
    cases h
    exact ⟨rfl, hsize⟩
  · rw [if_neg hsize] at h
    cases h

theorem opened_eq {layout : Layout} (hdir : readDirectory? src = some dir)
    (hlayout : dir.layout? src = some layout) : opened src = .ok (describe dir layout src) := by
  simp only [opened, hdir, hlayout]

theorem pixelsOf_of_rows {layout : Layout} {rows : ByteArray} (hform : layout.form = 1)
    (hrows : readRows? layout src = some rows) : pixelsOf layout src = .ok (.bytes rows) := by
  have hsigned : ¬ layout.form = 2 := by
    rw [hform]
    decide
  unfold pixelsOf
  rw [if_pos (Or.inl hform), hrows]
  exact congrArg Except.ok (if_neg hsigned)

theorem restores : TiffCodec.Restores := by
  intro picture src hwhole hencode
  rcases parts_of_encode hencode with ⟨rfl, hsize⟩
  rcases read_write (isStatable_formOf hwhole) (admits_tagFields picture) (size_samples hwhole)
    hsize with ⟨dir, hread, hdescribes, hlayout, hrows⟩
  have hopened := opened_eq hread hlayout
  refine ⟨_, hopened, ⟨rfl, rfl, rfl, ?_, ?_, ?_, ?_⟩⟩
  · exact doublesOf?_of_describes hdescribes List.mem_cons_self
  · exact doublesOf?_of_describes hdescribes (List.mem_cons_of_mem _ List.mem_cons_self)
  · exact shortsOf?_of_describes hdescribes
      (List.mem_cons_of_mem _ (List.mem_cons_of_mem _ List.mem_cons_self))
  · exact pixelsOf_of_rows rfl hrows

end Tiff
end TileAudit
