import TileAudit.Proofs.Bytes.Bits
import TileAudit.Proofs.Bytes.Reading
import TileAudit.Zlib

/-!
# Stored blocks and back

A block that is stored as it is gives its bytes, and after it the reader stands at the next
block. So blocks give all of their bytes, and so does the container around them.
-/

namespace TileAudit
namespace Deflate

/-!
## One block

The first bit of a block tells whether it is the last one, and the next two that it is stored as it
is.
-/

section

variable {src output : ByteArray} {place : Nat} {last : Bool} {bytes : List UInt8}

theorem length_storedBlock (last : Bool) (bytes : List UInt8) :
    (storedBlock last bytes).length = bytes.length + 5 := by
  unfold storedBlock
  rw [List.length_cons, List.length_append, List.length_append, Bytes.length_littleEndian,
    Bytes.length_littleEndian]
  omega

theorem lowNumber?_last (h : Bytes.HoldsAt src place (storedBlock last bytes)) :
    Bits.lowNumber? src 1 (8 * place) = some last.toNat := by
  have hbit : Bits.bit? .low src (8 * place) = some _ :=
    Bits.bit?_low_of_at? h.at? (by decide : 0 < 8)
  rw [Bits.lowNumber?_one hbit]
  cases last with
  | false => rfl
  | true => rfl

theorem lowNumber?_kind (h : Bytes.HoldsAt src place (storedBlock last bytes)) :
    Bits.lowNumber? src 2 (8 * place + 1) = some 0 := by
  have hfirst := Bits.bit?_low_of_at? h.at? (by decide : 1 < 8)
  have hsecond := Bits.bit?_low_of_at? h.at? (by decide : 2 < 8)
  rw [Bits.lowNumber?_two hfirst hsecond]
  cases last with
  | false => rfl
  | true => rfl

theorem inflateStored_storedBlock (h : Bytes.HoldsAt src place (storedBlock last bytes))
    (hbytes : bytes.length ≤ storedLimit) (output : ByteArray) :
    inflateStored src (8 * place + 3) output =
      .next (8 * (place + (storedBlock last bytes).length)) (output ++ ⟨bytes.toArray⟩) := by
  have hstart : (8 * place + 3 + 7) / 8 = place + 1 := by omega
  have hblock : Bytes.HoldsAt src place ([if last then 1 else 0] ++
      (Bytes.littleEndian 2 bytes.length ++ Bytes.littleEndian 2 (0xFFFF - bytes.length) ++
        bytes)) := h
  have hparts := hblock.right
  have hlength : Bytes.number? .little src (place + 1) 2 = some bytes.length := by
    apply hparts.left.left.number?
    show bytes.length < 65536
    unfold storedLimit at hbytes
    omega
  have hcomplement : Bytes.number? .little src (place + 1 + 2) 2 =
      some (0xFFFF - bytes.length) := by
    have hright := hparts.left.right
    rw [Bytes.length_littleEndian] at hright
    apply hright.number?
    show 0xFFFF - bytes.length < 65536
    omega
  have hheld : Bytes.HoldsAt src (place + 1 + 4) bytes := by
    have hright := hparts.right
    rw [List.length_append, Bytes.length_littleEndian, Bytes.length_littleEndian] at hright
    exact hright
  have hsum : bytes.length + (0xFFFF - bytes.length) = 0xFFFF := by
    unfold storedLimit at hbytes
    omega
  have hend : place + 1 + 4 + bytes.length = place + (storedBlock last bytes).length := by
    rw [length_storedBlock]
    omega
  unfold inflateStored
  simp only [hstart, hlength, hcomplement, hsum, if_true, hheld.le_size]
  rw [hheld.extract rfl, hend]

theorem inflateBlocks_storedBlock (h : Bytes.HoldsAt src place (storedBlock last bytes))
    (hbytes : bytes.length ≤ storedLimit) {limit : Nat} (hlimit : output.size < limit)
    (fuel : Nat) :
    inflateBlocks src limit (fuel + 1) (8 * place) output =
      if last then
        ⟨output ++ ⟨bytes.toArray⟩, .finished (8 * (place + (storedBlock last bytes).length))⟩
      else
        inflateBlocks src limit fuel (8 * (place + (storedBlock last bytes).length))
          (output ++ ⟨bytes.toArray⟩) := by
  have hnot : ¬ output.size ≥ limit := Nat.not_le_of_lt hlimit
  rw [inflateBlocks, if_neg hnot, lowNumber?_last h, lowNumber?_kind h]
  simp only [if_true, inflateStored_storedBlock h hbytes]
  cases last with
  | false => rfl
  | true => rfl

end

theorem append_take_drop (output : ByteArray) (bytes : List UInt8) (count : Nat) :
    output ++ ⟨(bytes.take count).toArray⟩ ++ ⟨(bytes.drop count).toArray⟩ =
      output ++ ⟨bytes.toArray⟩ := by
  apply ByteArray.ext
  apply Array.toList_inj.mp
  simp only [ByteArray.toList_data_append, List.append_assoc, List.take_append_drop]

theorem inflateBlocks_storedBlocks {src output : ByteArray} {place limit fuel : Nat}
    {bytes : List UInt8} (h : Bytes.HoldsAt src place (storedBlocks bytes))
    (hlimit : limit = output.size + bytes.length) (hfuel : bytes.length < fuel) :
    (inflateBlocks src limit fuel (8 * place) output).output = output ++ ⟨bytes.toArray⟩ := by
  -- Every block takes some of the bytes, so the fuel outlasts them.
  induction fuel generalizing place output bytes with
  | zero => exact absurd hfuel (Nat.not_lt_zero _)
  | succ fuel ih =>
      by_cases hempty : bytes = []
      · have henough : output.size ≥ limit := by
          rw [hlimit, hempty]
          exact Nat.le_refl _
        rw [inflateBlocks, if_pos henough, hempty]
        exact ByteArray.append_empty.symm
      have hpos := List.length_pos_iff.mpr hempty
      rw [storedBlocks] at h
      by_cases hshort : bytes.length ≤ storedLimit
      · rw [dif_pos hshort] at h
        rw [inflateBlocks_storedBlock h hshort (by omega), if_pos rfl]
      · rw [dif_neg hshort] at h
        have htake : (bytes.take storedLimit).length = storedLimit := by
          rw [List.length_take]
          omega
        have hsize : (output ++ ⟨(bytes.take storedLimit).toArray⟩ : ByteArray).size =
            output.size + storedLimit := by
          rw [ByteArray.size_append]
          show output.size + (bytes.take storedLimit).length = _
          rw [htake]
        have hlimit' : limit = (output ++ ⟨(bytes.take storedLimit).toArray⟩ : ByteArray).size +
            (bytes.drop storedLimit).length := by
          rw [hsize, List.length_drop]
          omega
        have hfuel' : (bytes.drop storedLimit).length < fuel := by
          rw [List.length_drop]
          unfold storedLimit at hshort ⊢
          omega
        rw [inflateBlocks_storedBlock h.left (Nat.le_of_eq htake) (by omega),
          if_neg Bool.false_ne_true, ih h.right hlimit' hfuel', append_take_drop]

theorem length_le_length_storedBlocks (bytes : List UInt8) :
    bytes.length ≤ (storedBlocks bytes).length := by
  induction bytes using storedBlocks.induct with
  | case1 bytes hshort =>
      rw [storedBlocks, dif_pos hshort, length_storedBlock]
      omega
  | case2 bytes hlong ih =>
      rw [List.length_drop] at ih
      rw [storedBlocks, dif_neg hlong, List.length_append, length_storedBlock, List.length_take]
      omega

end Deflate

namespace Zlib

theorem length_le_length_pack (bytes : ByteArray) : bytes.size ≤ (pack bytes).length := by
  have hblocks := Deflate.length_le_length_storedBlocks bytes.data.toList
  have hsize : bytes.data.toList.length = bytes.size := rfl
  unfold pack
  rw [List.length_append, List.length_cons, List.length_cons]
  omega

theorem unpack_pack (bytes : ByteArray) :
    (unpack ⟨(pack bytes).toArray⟩ bytes.size).output = bytes := by
  have hall : Bytes.HoldsAt ⟨(pack bytes).toArray⟩ 0
      ([0x78, 0x01] ++ Deflate.storedBlocks bytes.data.toList ++
        Bytes.encode .big 4 (Checksum.adler32 bytes)) :=
    ⟨[], [], by simp [pack], rfl⟩
  have hmethod : Bytes.at? ⟨(pack bytes).toArray⟩ 0 = some 0x78 := hall.left.left.at?
  have hmarks : Bytes.HoldsAt ⟨(pack bytes).toArray⟩ 0 ([0x78] ++ [0x01]) := hall.left.left
  have hflags : Bytes.at? ⟨(pack bytes).toArray⟩ 1 = some 0x01 := hmarks.right.at?
  have hheader : isHeader (0x78 : UInt8).toNat (0x01 : UInt8).toNat = true := by decide
  have hfuel : bytes.data.toList.length < 8 * (pack bytes).length + 1 := by
    have hlength := length_le_length_pack bytes
    have hsize : bytes.data.toList.length = bytes.size := rfl
    omega
  unfold unpack
  rw [hmethod, hflags]
  simp only [hheader, if_true, Deflate.inflate]
  have hlimit : bytes.size = ByteArray.empty.size + bytes.data.toList.length :=
    (Nat.zero_add _).symm
  have hblocks := Deflate.inflateBlocks_storedBlocks hall.left.right hlimit hfuel
  exact hblocks.trans (ByteArray.empty_append)

end Zlib
end TileAudit
