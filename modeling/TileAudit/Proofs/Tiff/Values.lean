import TileAudit.Proofs.Tiff.Directory

/-!
# Values behind tags

What a tag gives in a file whose directory describes written values: its own value, or nothing
where the tag was not written.
-/

namespace TileAudit
namespace Tiff

section

variable {dir : Directory} {src : ByteArray} {entries : List (Tag × Value)} {tag : Tag}
  {value : Value} {f : Field}

theorem Describes.exists_field? (h : Describes dir src entries)
    (hnodup : (entries.map Prod.fst).Nodup) (hmem : (tag, value) ∈ entries) :
    ∃ f, dir.field? tag = some f ∧ Carries dir.order src f (tag, value) := by
  rcases h.complete _ hmem with ⟨g, hg, hcarried⟩
  cases hfound : dir.field? tag with
  | none =>
      have hnone := List.find?_eq_none.mp hfound g (List.mem_reverse.mpr hg)
      exact absurd (decide_eq_true hcarried.tag_eq) hnone
  | some f =>
      have htag : f.tag = tag.number := by
        unfold Directory.field? at hfound
        have hdecide := List.find?_some hfound
        exact of_decide_eq_true hdecide
      rcases h.sound f (List.mem_reverse.mp (List.mem_of_find?_eq_some hfound)) with
        ⟨entry, hentry, hcarries⟩
      have hsame : entry.1 = tag := Tag.number_injective (hcarries.tag_eq.symm.trans htag)
      have heq : entry = (tag, value) := List.inj_on_of_nodup_map hnodup hentry hmem hsame
      rw [heq] at hcarries
      exact ⟨f, rfl, hcarries⟩

theorem Describes.field?_eq_none (h : Describes dir src entries)
    (hnot : tag ∉ entries.map Prod.fst) : dir.field? tag = none := by
  apply List.find?_eq_none.mpr
  intro f hf htag
  rcases h.sound f (List.mem_reverse.mp hf) with ⟨entry, hentry, hcarries⟩
  have hsame : entry.1 = tag :=
    Tag.number_injective (hcarries.tag_eq.symm.trans (of_decide_eq_true htag))
  exact hnot (List.mem_map.mpr ⟨entry, hentry, hsame⟩)

theorem Carries.rawValues? (h : Carries dir.order src f (tag, value)) (hfits : value.Fits) :
    dir.rawValues? src f = some value.naturals := by
  have hholds := h.holds
  have hwithin := hholds.le_size
  rw [value.length_bytes] at hwithin
  rw [value.bytes_eq] at hholds
  have hread := hholds.numbers? hfits
  rw [value.length_naturals] at hread
  unfold Directory.rawValues?
  rw [h.kind_eq, h.count_eq]
  simp only [value.valueSize?_kind, Option.bind_eq_bind, Option.bind_some, guard, if_pos hwithin,
    hread]
  rfl

def Value.IsWhole (value : Value) : Prop :=
  value.kind = 3 ∨ value.kind = 4

theorem Carries.naturals? (h : Carries dir.order src f (tag, value)) (hfits : value.Fits)
    (hwhole : value.IsWhole) : dir.naturals? src f = some value.naturals := by
  have hraw := h.rawValues? hfits
  have hkind := h.kind_eq
  unfold Directory.naturals?
  rcases hwhole with hthree | hfour
  · rw [hkind, hthree]
    exact hraw
  · rw [hkind, hfour]
    exact hraw

theorem Carries.doubles? {values : List Float} (h : Carries dir.order src f (tag, .doubles values)) :
    dir.doubles? src f = some values := by
  have hfits : (Value.doubles values).Fits := by
    intro n hn
    rcases List.mem_map.mp hn with ⟨x, _, rfl⟩
    exact x.toBits.toNat_lt
  have hraw := h.rawValues? hfits
  have hkind : f.kind = 12 := h.kind_eq
  have hsame : (values.map fun x => x.toBits.toNat).map
      (fun n => Float.ofBits (UInt64.ofNat n)) = values := by
    rw [List.map_map]
    have hbits : ((fun n => Float.ofBits (UInt64.ofNat n)) ∘ fun x => x.toBits.toNat) =
        (id : Float → Float) := by
      funext x
      show Float.ofBits (UInt64.ofNat x.toBits.toNat) = x
      rw [UInt64.ofNat_toNat, Float.ofBits_toBits]
    rw [hbits, List.map_id]
  unfold Directory.doubles?
  rw [hkind]
  show (dir.rawValues? src f).map _ = _
  rw [hraw, Option.map_some]
  exact congrArg some hsame

section

variable (h : Describes dir src entries) (hnodup : (entries.map Prod.fst).Nodup)

include h hnodup

theorem naturalList?_of_mem (hmem : (tag, value) ∈ entries) (hfits : value.Fits)
    (hwhole : value.IsWhole) (absent : Option (List Nat)) :
    naturalList? dir src tag absent = some value.naturals := by
  rcases h.exists_field? hnodup hmem with ⟨f, hfield, hcarries⟩
  unfold naturalList?
  rw [hfield]
  exact hcarries.naturals? hfits hwhole

theorem natural?_of_mem (hmem : (tag, value) ∈ entries) (hfits : value.Fits)
    (hwhole : value.IsWhole) {n : Nat} {rest : List Nat} (hvalue : value.naturals = n :: rest)
    (absent : Option Nat) : natural? dir src tag absent = some n := by
  rcases h.exists_field? hnodup hmem with ⟨f, hfield, hcarries⟩
  have hnaturals := hcarries.naturals? hfits hwhole
  unfold natural?
  rw [hfield]
  dsimp only
  rw [hnaturals, hvalue]

end

theorem natural?_of_not_mem (h : Describes dir src entries) (hnot : tag ∉ entries.map Prod.fst)
    (absent : Option Nat) : natural? dir src tag absent = absent := by
  unfold natural?
  rw [h.field?_eq_none hnot]

end

end Tiff
end TileAudit
