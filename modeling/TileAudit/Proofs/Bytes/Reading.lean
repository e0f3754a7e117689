import TileAudit.Bytes.Order

/-!
# Reading what a block holds

Bytes that a block holds at a place are read from there, and so are the numbers that they
stand for.
-/

namespace TileAudit
namespace Bytes

/-- A block has some bytes from a place on. -/
def HoldsAt (src : ByteArray) (place : Nat) (bytes : List UInt8) : Prop :=
  ∃ before after, src.data.toList = before ++ (bytes ++ after) ∧ before.length = place

section

variable {src : ByteArray} {place : Nat} {bytes front back : List UInt8}

theorem HoldsAt.left (h : HoldsAt src place (front ++ back)) : HoldsAt src place front := by
  rcases h with ⟨before, after, hdata, hlength⟩
  refine ⟨before, back ++ after, ?_, hlength⟩
  rw [hdata, List.append_assoc]

theorem HoldsAt.right (h : HoldsAt src place (front ++ back)) :
    HoldsAt src (place + front.length) back := by
  rcases h with ⟨before, after, hdata, hlength⟩
  refine ⟨before ++ front, after, ?_, ?_⟩
  · rw [hdata, List.append_assoc, List.append_assoc]
  · rw [List.length_append, hlength]

theorem HoldsAt.le_size (h : HoldsAt src place bytes) : place + bytes.length ≤ src.size := by
  rcases h with ⟨before, after, hdata, hlength⟩
  have hsize : src.data.toList.length = src.size := rfl
  rw [hdata, List.length_append, List.length_append] at hsize
  omega

theorem toList_extract (src : ByteArray) (start stop : Nat) :
    (src.extract start stop).data.toList = (src.data.toList.drop start).take (stop - start) := by
  rw [ByteArray.data_extract, Array.toList_extract, List.extract_eq_take_drop]

theorem HoldsAt.extract (h : HoldsAt src place bytes) {stop : Nat}
    (hstop : stop = place + bytes.length) : src.extract place stop = ⟨bytes.toArray⟩ := by
  rcases h with ⟨before, after, hdata, hlength⟩
  apply ByteArray.ext
  apply Array.toList_inj.mp
  rw [toList_extract, hdata, ← hlength, List.drop_left, hstop, ← hlength, Nat.add_sub_cancel_left,
    List.take_left]

theorem HoldsAt.slice? (h : HoldsAt src place bytes) :
    slice? src place bytes.length = some bytes := by
  have hdata : (src.extract place (place + bytes.length)).data = bytes.toArray := by
    rw [h.extract rfl]
  unfold Bytes.slice? between
  rw [if_pos h.le_size, hdata]

theorem HoldsAt.at? {b : UInt8} (h : HoldsAt src place (b :: bytes)) :
    at? src place = some b := by
  rcases h with ⟨before, after, hdata, hlength⟩
  rw [at?_eq_getElem?, ← Array.getElem?_toList, hdata, ← hlength,
    List.getElem?_append_right (Nat.le_refl _), Nat.sub_self]
  rfl

end

/-!
## Numbers in a block

A number that fits is read from the place of its bytes, and numbers that fit are read one after the
other.
-/

theorem mapM_range_eq_some {α : Type} {f : Nat → Option α} {values : List α}
    (h : ∀ i v, values[i]? = some v → f i = some v) :
    (List.range values.length).mapM f = some values := by
  induction values generalizing f with
  | nil => rfl
  | cons v rest ih =>
      have hrest : (List.range rest.length).mapM (fun i => f (i + 1)) = some rest :=
        ih fun i w hw => h (i + 1) w hw
      rw [List.length_cons, List.range_succ_eq_map, List.mapM_cons, h 0 v rfl, List.mapM_map]
      show ((List.range rest.length).mapM fun i => f (i + 1)).bind _ = _
      rw [hrest]
      rfl

section

variable {order : ByteOrder} {src : ByteArray} {place count : Nat}

theorem HoldsAt.number?_decode {bytes : List UInt8} (h : HoldsAt src place bytes) :
    number? order src place bytes.length = some (decode order bytes) := by
  unfold Bytes.number?
  rw [h.slice?, Option.map_some]

theorem HoldsAt.number? {n : Nat} (h : HoldsAt src place (encode order count n))
    (hn : n < Nat.pow 256 count) : number? order src place count = some n := by
  have hread := @HoldsAt.number?_decode order _ _ _ h
  rw [length_encode, decode_encode hn] at hread
  exact hread

theorem length_flatMap_encode (order : ByteOrder) (count : Nat) (values : List Nat) :
    (values.flatMap (encode order count)).length = count * values.length := by
  induction values with
  | nil => rfl
  | cons v rest ih =>
      rw [List.flatMap_cons, List.length_append, length_encode, ih, List.length_cons, Nat.mul_succ,
        Nat.add_comm]

theorem HoldsAt.encode_getElem {values : List Nat}
    (h : HoldsAt src place (values.flatMap (encode order count))) {i n : Nat}
    (hn : values[i]? = some n) : HoldsAt src (place + count * i) (encode order count n) := by
  induction values generalizing place i with
  | nil => cases hn
  | cons v rest ih =>
      rw [List.flatMap_cons] at h
      cases i with
      | zero =>
          cases hn
          exact h.left
      | succ i =>
          have hplace : place + count * (i + 1) = place + count + count * i := by
            rw [Nat.mul_succ]
            omega
          have hrest := h.right
          rw [length_encode] at hrest
          rw [hplace]
          exact ih hrest hn

theorem HoldsAt.numbers? {values : List Nat}
    (h : HoldsAt src place (values.flatMap (encode order count)))
    (hvalues : ∀ n ∈ values, n < Nat.pow 256 count) :
    (List.range values.length).mapM (fun i => Bytes.number? order src (place + count * i) count) =
      some values := by
  apply mapM_range_eq_some
  intro i n hn
  exact (h.encode_getElem hn).number? (hvalues n (List.mem_of_getElem? hn))

end

end Bytes
end TileAudit
