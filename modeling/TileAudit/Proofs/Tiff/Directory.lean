import Mathlib
import TileAudit.Proofs.Bytes.Reading
import TileAudit.Tiff.Layout
import TileAudit.Tiff.Writer

/-!
# Directories of written files

The directory of a written file is read field by field, and each field leads to the bytes of
the value that was written. When no tag is written twice, a tag finds its own value.
-/

namespace TileAudit
namespace Tiff

theorem Tag.number_injective {tag tag' : Tag} (h : tag.number = tag'.number) : tag = tag' := by
  cases tag <;> cases tag' <;> first | rfl | cases h

theorem Tag.number_lt (tag : Tag) : tag.number < 65536 := by
  cases tag <;> decide

namespace Value

def size : Value → Nat
  | shorts _ => 2
  | longs _ => 4
  | doubles _ => 8

def naturals : Value → List Nat
  | shorts values => values
  | longs values => values
  | doubles values => values.map fun x => x.toBits.toNat

theorem valueSize?_kind (value : Value) : valueSize? value.kind = some value.size := by
  cases value <;> rfl

theorem length_naturals (value : Value) : value.naturals.length = value.count := by
  cases value with
  | shorts values => rfl
  | longs values => rfl
  | doubles values => exact List.length_map _

theorem bytes_eq (order : ByteOrder) (value : Value) :
    value.bytes order = value.naturals.flatMap (Bytes.encode order value.size) := by
  cases value with
  | shorts values => rfl
  | longs values => rfl
  | doubles values => exact (List.flatMap_map _ _ _).symm

theorem length_bytes (order : ByteOrder) (value : Value) :
    (value.bytes order).length = value.size * value.count := by
  rw [bytes_eq, Bytes.length_flatMap_encode, length_naturals]

def Fits (value : Value) : Prop :=
  ∀ n ∈ value.naturals, n < Nat.pow 256 value.size

theorem size_pos (value : Value) : 0 < value.size := by
  cases value with
  | shorts values => exact Nat.zero_lt_succ 1
  | longs values => exact Nat.zero_lt_succ 3
  | doubles values => exact Nat.zero_lt_succ 7

theorem kind_lt (value : Value) : value.kind < 65536 := by
  cases value with
  | shorts values => exact (by decide : 3 < 65536)
  | longs values => exact (by decide : 4 < 65536)
  | doubles values => exact (by decide : 12 < 65536)

end Value

/-- A field that was found in a file leads to a value that was written with a tag. -/
structure Carries (order : ByteOrder) (src : ByteArray) (f : Field) (entry : Tag × Value) :
    Prop where
  tag_eq : f.tag = entry.1.number
  kind_eq : f.kind = entry.2.kind
  count_eq : f.count = entry.2.count
  holds : Bytes.HoldsAt src f.place (entry.2.bytes order)

section

variable {order : ByteOrder} {src : ByteArray} {place pointer : Nat} {tag : Tag} {value : Value}

theorem length_fieldBytes (order : ByteOrder) (tag : Tag) (value : Value) (pointer : Nat) :
    (fieldBytes order tag value pointer).length = 12 := by
  unfold fieldBytes
  simp only [List.length_append, Bytes.length_encode]
  by_cases hshort : (value.bytes order).length ≤ 4
  · rw [if_pos hshort, List.length_append, List.length_replicate]
    omega
  · rw [if_neg hshort, Bytes.length_encode]

theorem count_lt_of_overflow (h : Bytes.HoldsAt src pointer (overflow order value))
    (hsize : src.size < 4294967296) : value.count < 4294967296 := by
  have hbytes := value.length_bytes order
  have hle : value.count ≤ (value.bytes order).length := by
    rw [hbytes]
    exact Nat.le_mul_of_pos_left _ value.size_pos
  unfold overflow at h
  by_cases hshort : (value.bytes order).length ≤ 4
  · omega
  · rw [if_neg hshort] at h
    have hwithin := h.le_size
    omega

theorem readField?_fieldBytes (h : Bytes.HoldsAt src place (fieldBytes order tag value pointer))
    (hover : Bytes.HoldsAt src pointer (overflow order value)) (hsize : src.size < 4294967296) :
    ∃ f, readField? order src place = some (some f) ∧ Carries order src f (tag, value) := by
  have htag : Bytes.number? order src place 2 = some tag.number :=
    h.left.left.left.number? tag.number_lt
  have hkind : Bytes.number? order src (place + 2) 2 = some value.kind := by
    have hright := h.left.left.right
    rw [Bytes.length_encode] at hright
    exact hright.number? value.kind_lt
  have hcount : Bytes.number? order src (place + 4) 4 = some value.count := by
    have hright := h.left.right
    rw [List.length_append, Bytes.length_encode, Bytes.length_encode] at hright
    exact hright.number? (count_lt_of_overflow hover hsize)
  have htail := h.right
  rw [List.length_append, List.length_append, Bytes.length_encode, Bytes.length_encode,
    Bytes.length_encode] at htail
  have hbytes := value.length_bytes order
  -- Short values stand in the field itself, long ones at the place it names.
  by_cases hshort : (value.bytes order).length ≤ 4
  · rw [if_pos hshort] at htail
    have hfour : (value.bytes order ++ List.replicate (4 - (value.bytes order).length) 0).length =
        4 := by
      rw [List.length_append, List.length_replicate]
      omega
    obtain ⟨n, hpointer⟩ : ∃ n, Bytes.number? order src (place + 8) 4 = some n := by
      have hread := @Bytes.HoldsAt.number?_decode order _ _ _ htail
      rw [hfour] at hread
      exact ⟨_, hread⟩
    refine ⟨⟨tag.number, value.kind, value.count, place + 8⟩, ?_, rfl, rfl, rfl, htail.left⟩
    have hinline : value.size * value.count ≤ 4 := by
      rw [← hbytes]
      exact hshort
    simp only [readField?, htag, hkind, hcount, hpointer, Option.bind_eq_bind, Option.bind_some,
      value.valueSize?_kind, if_pos hinline]
    rfl
  · rw [if_neg hshort] at htail
    unfold overflow at hover
    rw [if_neg hshort] at hover
    have hwithin := hover.le_size
    refine ⟨⟨tag.number, value.kind, value.count, pointer⟩, ?_, rfl, rfl, rfl, hover⟩
    have hlong : ¬ value.size * value.count ≤ 4 := by
      rw [← hbytes]
      exact hshort
    have hpointer : Bytes.number? order src (place + 8) 4 = some pointer := by
      apply htail.number?
      show pointer < 4294967296
      omega
    simp only [readField?, htag, hkind, hcount, hpointer, Option.bind_eq_bind, Option.bind_some,
      value.valueSize?_kind, if_neg hlong]
    rfl

end

/-- What was found in a file is what was written: every field leads to a written value, and
every written value is led to. -/
structure Describes (dir : Directory) (src : ByteArray) (entries : List (Tag × Value)) : Prop where
  sound : ∀ f ∈ dir.fields, ∃ entry ∈ entries, Carries dir.order src f entry
  complete : ∀ entry ∈ entries, ∃ f ∈ dir.fields, Carries dir.order src f entry

section

variable {order : ByteOrder} {src : ByteArray} {entries : List (Tag × Value)}

theorem readFields_fieldList {place pointer : Nat}
    (h : Bytes.HoldsAt src place (fieldList order entries pointer))
    (hover : Bytes.HoldsAt src pointer (entries.flatMap fun entry => overflow order entry.2))
    (hsize : src.size < 4294967296) :
    ∃ fields : List Field,
      (List.range entries.length).mapM (fun i => readField? order src (place + 12 * i)) =
        some (fields.map some) ∧ Describes ⟨order, fields⟩ src entries := by
  induction entries generalizing place pointer with
  | nil =>
      refine ⟨[], rfl, ?_, ?_⟩
      · intro f hf
        cases hf
      · intro entry hentry
        cases hentry
  | cons first rest ih =>
      rcases first with ⟨tag, value⟩
      rw [List.flatMap_cons] at hover
      have htail := h.right
      rw [length_fieldBytes] at htail
      rcases readField?_fieldBytes h.left hover.left hsize with ⟨f, hread, hcarries⟩
      rcases ih htail hover.right with ⟨fields, hreads, hdescribes⟩
      have hshift : (fun i => readField? order src (place + 12 * (i + 1))) =
          fun i => readField? order src (place + 12 + 12 * i) := by
        funext i
        rw [Nat.mul_succ, Nat.add_assoc, Nat.add_comm 12]
      refine ⟨f :: fields, ?_, ?_, ?_⟩
      · rw [List.length_cons, List.range_succ_eq_map, List.mapM_cons, List.mapM_map, Nat.mul_zero,
          Nat.add_zero, hread]
        show ((List.range rest.length).mapM
          fun i => readField? order src (place + 12 * (i + 1))).bind _ = _
        rw [hshift, hreads]
        rfl
      · intro g hg
        rcases List.mem_cons.mp hg with rfl | hg
        · exact ⟨(tag, value), List.mem_cons_self, hcarries⟩
        · rcases hdescribes.sound g hg with ⟨entry, hentry, hcarried⟩
          exact ⟨entry, List.mem_cons_of_mem _ hentry, hcarried⟩
      · intro entry hentry
        rcases List.mem_cons.mp hentry with rfl | hentry
        · exact ⟨f, List.mem_cons_self, hcarries⟩
        · rcases hdescribes.complete entry hentry with ⟨g, hg, hcarried⟩
          exact ⟨g, List.mem_cons_of_mem _ hg, hcarried⟩

theorem length_fieldList (order : ByteOrder) (entries : List (Tag × Value)) (pointer : Nat) :
    (fieldList order entries pointer).length = 12 * entries.length := by
  induction entries generalizing pointer with
  | nil => rfl
  | cons first rest ih =>
      rcases first with ⟨tag, value⟩
      rw [fieldList, List.length_append, length_fieldBytes, ih, List.length_cons]
      omega

theorem byteOrder?_orderMark (h : Bytes.HoldsAt src 0 (orderMark order)) :
    byteOrder? src = some order := by
  have hslice := h.slice?
  cases order with
  | little =>
      have hmark : Bytes.slice? src 0 2 = some [0x49, 0x49] := hslice
      unfold byteOrder?
      rw [hmark]
      rfl
  | big =>
      have hmark : Bytes.slice? src 0 2 = some [0x4D, 0x4D] := hslice
      unfold byteOrder?
      rw [hmark]
      rfl

end

/-- The parts of a written file lie one after the other. -/
structure IsAssembled (order : ByteOrder) (src : ByteArray) (strip : List UInt8)
    (entries : List (Tag × Value)) : Prop where
  header_at : Bytes.HoldsAt src 0 (header order (headerSize + strip.length))
  strip_at : Bytes.HoldsAt src headerSize strip
  count_at : Bytes.HoldsAt src (headerSize + strip.length) (Bytes.encode order 2 entries.length)
  fields_at : Bytes.HoldsAt src (headerSize + strip.length + 2)
    (fieldList order entries (headerSize + strip.length + 2 + 12 * entries.length + 4))
  next_at : Bytes.HoldsAt src (headerSize + strip.length + 2 + 12 * entries.length)
    (Bytes.encode order 4 0)
  values_at : Bytes.HoldsAt src (headerSize + strip.length + 2 + 12 * entries.length + 4)
    (entries.flatMap fun entry => overflow order entry.2)

theorem length_header (order : ByteOrder) (directory : Nat) :
    (header order directory).length = headerSize := by
  unfold header
  rw [List.length_append, List.length_append, Bytes.length_encode, Bytes.length_encode]
  cases order with
  | little => rfl
  | big => rfl

theorem isAssembled_assemble (order : ByteOrder) (strip : List UInt8)
    (entries : List (Tag × Value)) :
    IsAssembled order (assemble order strip entries) strip entries := by
  have hall : Bytes.HoldsAt (assemble order strip entries) 0
      (header order (headerSize + strip.length) ++ strip ++
        Bytes.encode order 2 entries.length ++
        fieldList order entries (headerSize + strip.length + 2 + 12 * entries.length + 4) ++
        Bytes.encode order 4 0 ++ entries.flatMap fun entry => overflow order entry.2) :=
    ⟨[], [], by simp [assemble], rfl⟩
  have hover := hall.right
  have hnext := hall.left.right
  have hfields := hall.left.left.right
  have hcount := hall.left.left.left.right
  have hstrip := hall.left.left.left.left.right
  simp only [List.length_append, length_header, length_fieldList, Bytes.length_encode,
    Nat.zero_add] at hover hnext hfields hcount hstrip
  exact ⟨hall.left.left.left.left.left, hstrip, hcount, hfields, hnext, hover⟩

section

variable {order : ByteOrder} {src : ByteArray} {strip : List UInt8} {entries : List (Tag × Value)}

theorem IsAssembled.readDirectory? (h : IsAssembled order src strip entries)
    (hsize : src.size < 4294967296) (hentries : entries.length < 65536) :
    ∃ dir, readDirectory? src = some dir ∧ Describes dir src entries := by
  have horder : byteOrder? src = some order := byteOrder?_orderMark h.header_at.left.left
  have hlength : (orderMark order).length = 2 := by
    cases order with
    | little => rfl
    | big => rfl
  have hmark : Bytes.number? order src 2 2 = some 42 := by
    have hright := h.header_at.left.right
    rw [hlength] at hright
    exact hright.number? (by decide)
  have hstart : Bytes.number? order src 4 4 = some (headerSize + strip.length) := by
    have hright := h.header_at.right
    have hwithin := h.count_at.le_size
    rw [List.length_append, Bytes.length_encode, hlength] at hright
    apply hright.number?
    show headerSize + strip.length < 4294967296
    omega
  have hcount : Bytes.number? order src (headerSize + strip.length) 2 = some entries.length :=
    h.count_at.number? hentries
  have hnext : Bytes.number? order src
      (headerSize + strip.length + 2 + 12 * entries.length) 4 = some 0 :=
    h.next_at.number? (by decide)
  rcases readFields_fieldList h.fields_at h.values_at hsize with ⟨fields, hreads, hdescribes⟩
  refine ⟨⟨order, fields⟩, ?_, hdescribes⟩
  have hknown : (fields.map some).filterMap id = fields := by
    rw [List.filterMap_map]
    exact List.filterMap_some
  simp only [Tiff.readDirectory?, horder, hmark, hstart, hcount, hreads, hnext, hknown,
    Option.bind_eq_bind, Option.bind_some, guard, if_true]
  rfl

end

end Tiff
end TileAudit
