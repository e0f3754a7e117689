import TileAudit.Lzw
import TileAudit.Proofs.Bytes.Bits

/-!
# Packing with growing words and back

The packed form is a word for each byte, with a clear before each run of them. A reader that
has read some words holds the bytes that they stand for, and since the dictionary is cleared
before it is large, every word takes nine bits.
-/

namespace TileAudit
namespace Lzw

section

variable {bytes : ByteArray} {index : Nat}

def bytesBefore (index : Nat) : Nat :=
  index / (runLength + 1) * runLength + (index % (runLength + 1) - 1)

theorem wordAt_of_run_start (hindex : index % (runLength + 1) = 0)
    (hbytes : index / (runLength + 1) * runLength < bytes.size) :
    wordAt bytes index = clearWord := by
  unfold wordAt
  simp only [hindex, if_pos hbytes]

theorem wordAt_of_byte {k : Nat} {b : UInt8} (hindex : index % (runLength + 1) = k + 1)
    (hb : Bytes.at? bytes (index / (runLength + 1) * runLength + k) = some b) :
    wordAt bytes index = b.toNat := by
  unfold wordAt
  simp only [hindex, hb]

theorem wordAt_lt (bytes : ByteArray) (index : Nat) : wordAt bytes index < 512 := by
  unfold wordAt
  cases index % (runLength + 1) with
  | zero =>
      show (if _ then clearWord else endWord) < 512
      split
      · decide
      · decide
  | succ k =>
      dsimp only
      cases Bytes.at? bytes (index / (runLength + 1) * runLength + k) with
      | none => decide
      | some b => exact Nat.lt_trans b.toNat_lt (by decide)

theorem highNumber?_pack (h : index < wordCount bytes.size) :
    Bits.highNumber? (pack bytes) 9 (9 * index) 0 = some (wordAt bytes index) := by
  have hbits : ∀ i, i < 9 → Bits.bit? .high (pack bytes) (9 * index + i) =
      some ((wordAt bytes index).testBit (9 - 1 - i)) := by
    intro i hi
    have hword : (9 * index + i) / 9 = index := by omega
    have hplace : (9 * index + i) % 9 = i := by omega
    unfold pack
    rw [Bits.bit?_packHigh _ (by omega), hword, hplace]
  rw [Bits.highNumber?_eq hbits]
  have hpower : Nat.pow 2 9 = 512 := rfl
  rw [Nat.zero_mul, Nat.zero_add, hpower, Nat.mod_eq_of_lt (wordAt_lt bytes index)]

end

/-!
## Reading words

A reader that has read the words before an index holds the bytes that they stand for. The dictionary
is cleared before it grows, so every word has nine bits.
-/

theorem width_of_few_entries {s : State} (h : s.entries.size ≤ runLength) : s.width = 9 := by
  have hfew : 258 + s.entries.size + (if s.previous.isSome then 1 else 0) < 512 := by
    unfold runLength at h
    split
    · omega
    · omega
  unfold State.width
  rw [if_pos hfew]

theorem size_grown_le (entries : Array Piece) (previous : Option Piece) :
    (grown entries previous).size ≤ entries.size + 1 := by
  cases previous with
  | none => exact Nat.le_succ _
  | some p =>
      rw [grown]
      split
      · exact Nat.le_of_eq (Array.size_push _)
      · exact Nat.le_succ _

/-- A reader has read the words before an index. -/
structure HasRead (bytes : ByteArray) (index : Nat) (s : State) : Prop where
  output : s.output.data.toList = bytes.data.toList.take (bytesBefore index)
  within : bytesBefore index ≤ bytes.size
  /-- A run is begun only for a byte in it. -/
  begun : index % (runLength + 1) ≠ 0 → index / (runLength + 1) * runLength < bytes.size
  entries : s.entries.size ≤ (index + runLength) % (runLength + 1)

section

variable {bytes : ByteArray} {index : Nat} {s : State}

theorem HasRead.size_output (h : HasRead bytes index s) : s.output.size = bytesBefore index := by
  have hlength := congrArg List.length h.output
  have hbytes : bytes.data.toList.length = bytes.size := rfl
  rw [List.length_take, hbytes, Nat.min_eq_left h.within] at hlength
  exact hlength

theorem HasRead.width (h : HasRead bytes index s) : s.width = 9 := by
  apply width_of_few_entries
  have hentries := h.entries
  have hmod := Nat.mod_lt (index + runLength) (by decide : 0 < runLength + 1)
  omega

theorem HasRead.index_lt (h : HasRead bytes index s) : index < wordCount bytes.size := by
  have hwithin := h.within
  have hbegun := h.begun
  unfold bytesBefore runLength at hwithin
  unfold runLength at hbegun
  unfold wordCount runLength
  omega

theorem HasRead.next_of_run_start (h : HasRead bytes index s)
    (hindex : index % (runLength + 1) = 0) (hmore : bytesBefore index < bytes.size) :
    wordAt bytes index = clearWord ∧ HasRead bytes (index + 1) (State.cleared s.output) := by
  have hbefore : bytesBefore (index + 1) = bytesBefore index := by
    unfold bytesBefore runLength
    unfold runLength at hindex
    omega
  have hstart : index / (runLength + 1) * runLength < bytes.size := by
    unfold bytesBefore at hmore
    omega
  refine ⟨wordAt_of_run_start hindex hstart, ?_, ?_, ?_, Nat.zero_le _⟩
  · rw [hbefore]
    exact h.output
  · rw [hbefore]
    exact h.within
  · intro _
    unfold runLength at hindex hstart ⊢
    omega

theorem HasRead.next_of_byte (h : HasRead bytes index s) {k : Nat}
    (hindex : index % (runLength + 1) = k + 1) (hmore : bytesBefore index < bytes.size) :
    ∃ b : UInt8, wordAt bytes index = b.toNat ∧ HasRead bytes (index + 1) (s.literal b) := by
  have hplace : bytesBefore index = index / (runLength + 1) * runLength + k := by
    unfold bytesBefore
    rw [hindex, Nat.add_sub_cancel]
  have hbefore : bytesBefore (index + 1) = bytesBefore index + 1 := by
    unfold bytesBefore runLength
    unfold runLength at hindex
    omega
  obtain ⟨b, hbyte⟩ : ∃ b, bytes.data[bytesBefore index]? = some b :=
    ⟨_, Array.getElem?_eq_getElem hmore⟩
  refine ⟨b, ?_, ?_, ?_, ?_, ?_⟩
  · apply wordAt_of_byte hindex
    rw [Bytes.at?_eq_getElem?, ← hplace, hbyte]
  · rw [hbefore, List.take_add_one, Array.getElem?_toList, hbyte, ← h.output]
    show (s.output.data.push _).toList = _
    rw [Array.toList_push]
    rfl
  · rw [hbefore]
    exact hmore
  · intro hinside
    have hbegun := h.begun (by omega)
    unfold runLength at hindex hinside hbegun ⊢
    omega
  · have hentries := h.entries
    have hgrown : (grown s.entries s.previous).size ≤
        (index + 1 + runLength) % (runLength + 1) := by
      have hle := size_grown_le s.entries s.previous
      unfold runLength at hindex hentries ⊢
      omega
    exact hgrown

theorem HasRead.step (h : HasRead bytes index s) (hmore : bytesBefore index < bytes.size)
    (fuel : Nat) :
    ∃ s', HasRead bytes (index + 1) s' ∧
      readWords (pack bytes) bytes.size (fuel + 1) (9 * index) s =
        readWords (pack bytes) bytes.size fuel (9 * (index + 1)) s' := by
  have hnot : ¬ s.output.size ≥ bytes.size := by
    rw [h.size_output]
    omega
  have hread := highNumber?_pack h.index_lt
  cases hindex : index % (runLength + 1) with
  | zero =>
      rcases h.next_of_run_start hindex hmore with ⟨hword, hnext⟩
      refine ⟨_, hnext, ?_⟩
      rw [hword] at hread
      rw [readWords, if_neg hnot, h.width, hread]
      rfl
  | succ k =>
      rcases h.next_of_byte hindex hmore with ⟨b, hword, hnext⟩
      refine ⟨_, hnext, ?_⟩
      rw [hword] at hread
      rw [readWords, if_neg hnot, h.width, hread]
      dsimp only
      rw [if_pos b.toNat_lt, UInt8.ofNat_toNat, Nat.mul_succ]

theorem HasRead.run {fuel : Nat} (h : HasRead bytes index s)
    (hfuel : wordCount bytes.size ≤ index + fuel) :
    readWords (pack bytes) bytes.size fuel (9 * index) s = (bytes, .enough) := by
  induction fuel generalizing index s with
  | zero =>
      have hindex := h.index_lt
      omega
  | succ fuel ih =>
      by_cases hmore : bytesBefore index < bytes.size
      · rcases h.step hmore fuel with ⟨s', hnext, hstep⟩
        rw [hstep]
        exact ih hnext (by omega)
      · have hwithin := h.within
        have hall : s.output = bytes := by
          apply ByteArray.ext
          apply Array.toList_inj.mp
          rw [h.output]
          apply List.take_of_length_le
          show bytes.size ≤ bytesBefore index
          omega
        have hdone : s.output.size ≥ bytes.size :=
          Nat.le_of_eq (congrArg ByteArray.size hall.symm)
        rw [readWords, if_pos hdone, hall]

end

theorem unpack_pack (bytes : ByteArray) : unpack (pack bytes) bytes.size = (bytes, .enough) := by
  have hstart : HasRead bytes 0 (State.cleared ByteArray.empty) := by
    refine ⟨rfl, Nat.zero_le _, ?_, Nat.zero_le _⟩
    intro hzero
    exact absurd (Nat.zero_mod _) hzero
  apply hstart.run
  unfold pack
  rw [Bits.size_packHigh]
  omega

end Lzw
end TileAudit
