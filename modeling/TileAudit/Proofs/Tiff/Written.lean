import TileAudit.Proofs.Tiff.Strips
import TileAudit.Proofs.Tiff.Values

/-!
# Written images and back

A written image is read with its own layout, and its rows are the ones that were written,
whatever further fields stand beside them.
-/

namespace TileAudit
namespace Tiff

def ImageForm.colours (image : ImageForm) : Nat :=
  if image.photometric = 2 then 3 else 1

def ImageForm.extraEntries (image : ImageForm) : List (Tag × Value) :=
  if image.samples > image.colours then
    [(.extraSamples, .shorts (List.replicate (image.samples - image.colours) 2))]
  else []

def ImageForm.shapeEntries (image : ImageForm) (size : Nat) : List (Tag × Value) :=
  [(.imageWidth, .longs [image.width]),
    (.imageLength, .longs [image.height]),
    (.bitsPerSample, .shorts (List.replicate image.samples image.bits)),
    (.compression, .shorts [compressionNumber image.compression]),
    (.photometric, .shorts [image.photometric]),
    (.stripOffsets, .longs [headerSize]),
    (.samplesPerPixel, .shorts [image.samples]),
    (.rowsPerStrip, .longs [image.height]),
    (.stripByteCounts, .longs [size])]

def ImageForm.formEntries (image : ImageForm) : List (Tag × Value) :=
  [(.sampleFormat, .shorts (List.replicate image.samples image.form))]

def ImageForm.entries (image : ImageForm) (size : Nat) (further : List (Tag × Value)) :
    List (Tag × Value) :=
  image.shapeEntries size ++ image.extraEntries ++ image.formEntries ++ further

theorem write_eq (order : ByteOrder) (image : ImageForm) (rows : ByteArray)
    (further : List (Tag × Value)) :
    write order image rows further =
      assemble order (packStrip image.compression rows)
        (image.entries (packStrip image.compression rows).length further) := rfl

/-- An image that a file can state, with samples of a known colour. -/
structure ImageForm.IsStatable (image : ImageForm) (colour : ColourKind) : Prop where
  width : 0 < image.width ∧ image.width < 4294967296
  height : 0 < image.height ∧ image.height < 4294967296
  samples : 0 < image.samples ∧ image.samples < 65536
  bits : 0 < image.bits ∧ image.bits < 65536
  form : image.form < 65536
  colour_eq : colourKind? image.photometric image.bits image.samples = some colour

/-- Further fields that stand beside those of an image. -/
structure ImageForm.Admits (image : ImageForm) (further : List (Tag × Value)) : Prop where
  distinct : ∀ size, ((image.entries size further).map Prod.fst).Nodup
  predictor : .predictor ∉ further.map Prod.fst
  planes : .planarConfiguration ∉ further.map Prod.fst
  few : further.length < 1000

/-!
## Reading the layout

A tag that no image has is there only if it stands beside the image, so the fields of the image
alone decide about its layout.
-/

theorem uniform?_replicate {count : Nat} (hcount : 0 < count) (n : Nat) :
    uniform? (List.replicate count n) = some n := by
  cases count with
  | zero => cases hcount
  | succ count =>
      have hall : (List.replicate count n).all (· == n) = true := by
        rw [List.all_replicate]
        simp
      rw [List.replicate_succ, uniform?, if_pos hall]

theorem fits_shorts_replicate {n : Nat} (hn : n < 65536) (count : Nat) :
    (Value.shorts (List.replicate count n)).Fits := by
  intro m hm
  rw [List.eq_of_mem_replicate hm]
  exact hn

theorem fits_longs_singleton {n : Nat} (hn : n < 4294967296) : (Value.longs [n]).Fits := by
  intro m hm
  rw [List.mem_singleton.mp hm]
  exact hn

theorem compressionNumber_lt (compression : Compression) : compressionNumber compression < 65536 := by
  cases compression <;> decide

theorem photometric_lt {photometric bits samples : Nat} {colour : ColourKind}
    (h : colourKind? photometric bits samples = some colour) : photometric < 65536 := by
  by_contra hlarge
  unfold colourKind? at h
  split at h <;> first | omega | cases h

section

variable {dir : Directory} {src : ByteArray} {image : ImageForm} {colour : ColourKind}
  {size : Nat} {further : List (Tag × Value)}

theorem mem_entries_of_shape {entry : Tag × Value} (h : entry ∈ image.shapeEntries size) :
    entry ∈ image.entries size further :=
  List.mem_append_left _ (List.mem_append_left _ (List.mem_append_left _ h))

theorem mem_entries_of_further {entry : Tag × Value} (h : entry ∈ further) :
    entry ∈ image.entries size further :=
  List.mem_append_right _ h

theorem not_mem_entries {tag : Tag} (hnot : tag ∉ further.map Prod.fst)
    (htag : tag = .predictor ∨ tag = .planarConfiguration) :
    tag ∉ (image.entries size further).map Prod.fst := by
  intro hmem
  have hextra : tag ∉ image.extraEntries.map Prod.fst := by
    unfold ImageForm.extraEntries
    rcases htag with rfl | rfl <;> (split <;> simp)
  have hshape : tag ∉ (image.shapeEntries size).map Prod.fst := by
    rcases htag with rfl | rfl <;> simp [ImageForm.shapeEntries]
  have hform : tag ∉ image.formEntries.map Prod.fst := by
    rcases htag with rfl | rfl <;> simp [ImageForm.formEntries]
  simp only [ImageForm.entries, List.map_append, List.mem_append] at hmem
  rcases hmem with ((hmem | hmem) | hmem) | hmem
  · exact hshape hmem
  · exact hextra hmem
  · exact hform hmem
  · exact hnot hmem

def ImageForm.layout (image : ImageForm) (colour : ColourKind) (size : Nat) : Layout where
  width := image.width
  height := image.height
  colour := colour
  bits := image.bits
  samples := image.samples
  form := image.form
  compression := compressionNumber image.compression
  predictor := 1
  rowsPerStrip := image.height
  strips := [(headerSize, size)]

theorem layout?_of_describes (h : Describes dir src (image.entries size further))
    (hstatable : image.IsStatable colour) (hadmits : image.Admits further)
    (hsize : size < 4294967296) : dir.layout? src = some (image.layout colour size) := by
  have hnodup := hadmits.distinct size
  have hlong : ∀ {tag : Tag} {n : Nat} (absent : Option Nat), n < 4294967296 →
      (tag, Value.longs [n]) ∈ image.shapeEntries size →
      natural? dir src tag absent = some n := by
    intro tag n absent hn hmem
    exact natural?_of_mem h hnodup (mem_entries_of_shape hmem) (fits_longs_singleton hn)
      (Or.inr rfl) rfl absent
  have hshort : ∀ {tag : Tag} {n : Nat} (absent : Option Nat), n < 65536 →
      (tag, Value.shorts [n]) ∈ image.shapeEntries size →
      natural? dir src tag absent = some n := by
    intro tag n absent hn hmem
    exact natural?_of_mem h hnodup (mem_entries_of_shape hmem) (fits_shorts_replicate hn 1)
      (Or.inl rfl) rfl absent
  have hlongList : ∀ {tag : Tag} {n : Nat} (absent : Option (List Nat)), n < 4294967296 →
      (tag, Value.longs [n]) ∈ image.shapeEntries size →
      naturalList? dir src tag absent = some [n] := by
    intro tag n absent hn hmem
    exact naturalList?_of_mem h hnodup (mem_entries_of_shape hmem) (fits_longs_singleton hn)
      (Or.inr rfl) absent
  have hwidth : natural? dir src .imageWidth none = some image.width :=
    hlong none hstatable.width.2 (by simp [ImageForm.shapeEntries])
  have hheight : natural? dir src .imageLength none = some image.height :=
    hlong none hstatable.height.2 (by simp [ImageForm.shapeEntries])
  have hphotometric : natural? dir src .photometric none = some image.photometric :=
    hshort none (photometric_lt hstatable.colour_eq) (by simp [ImageForm.shapeEntries])
  have hcompression : natural? dir src .compression (some 1) =
      some (compressionNumber image.compression) :=
    hshort _ (compressionNumber_lt _) (by simp [ImageForm.shapeEntries])
  have hsamples : natural? dir src .samplesPerPixel (some 1) = some image.samples :=
    hshort _ hstatable.samples.2 (by simp [ImageForm.shapeEntries])
  have hrows : natural? dir src .rowsPerStrip (some image.height) = some image.height :=
    hlong _ hstatable.height.2 (by simp [ImageForm.shapeEntries])
  have hplaces : naturalList? dir src .stripOffsets none = some [headerSize] :=
    hlongList none (by decide) (by simp [ImageForm.shapeEntries])
  have hsizes : naturalList? dir src .stripByteCounts none = some [size] :=
    hlongList none hsize (by simp [ImageForm.shapeEntries])
  have hdepths : naturalList? dir src .bitsPerSample (some [1]) =
      some (List.replicate image.samples image.bits) :=
    naturalList?_of_mem h hnodup (mem_entries_of_shape (by simp [ImageForm.shapeEntries]))
      (fits_shorts_replicate hstatable.bits.2 _) (Or.inl rfl) _
  have hforms : naturalList? dir src .sampleFormat (some [1]) =
      some (List.replicate image.samples image.form) :=
    naturalList?_of_mem h hnodup
      (List.mem_append_left _ (List.mem_append_right _ List.mem_cons_self))
      (fits_shorts_replicate hstatable.form _) (Or.inl rfl) _
  -- These two tags are never written, so they have the values of absent ones.
  have hpredictor : natural? dir src .predictor (some 1) = some 1 :=
    natural?_of_not_mem h (not_mem_entries hadmits.predictor (Or.inl rfl)) _
  have hplanes : natural? dir src .planarConfiguration (some 1) = some 1 :=
    natural?_of_not_mem h (not_mem_entries hadmits.planes (Or.inr rfl)) _
  have hwide := hstatable.width.1
  have hhigh := hstatable.height.1
  have hone : (image.height - 1) / image.height + 1 = 1 := by
    rw [Nat.div_eq_of_lt (by omega)]
  have hform := uniform?_replicate hstatable.samples.1 image.form
  have hbits := uniform?_replicate hstatable.samples.1 image.bits
  have hnonzero : image.width ≠ 0 ∧ image.height ≠ 0 ∧ image.samples ≠ 0 ∧ image.bits ≠ 0 :=
    ⟨hwide.ne', hhigh.ne', hstatable.samples.1.ne', hstatable.bits.1.ne'⟩
  simp only [Directory.layout?, hwidth, hheight, hphotometric, hcompression, hsamples, hrows,
    hplaces, hsizes, hdepths, hforms, hpredictor, hplanes, hform, hbits, hstatable.colour_eq,
    Option.bind_eq_bind, Option.bind_some, guard, hnonzero, hone, List.length_replicate, ne_eq,
    not_false_eq_true, and_self, true_or, if_true, List.length_cons, List.length_nil,
    Nat.zero_add, Nat.min_self, Option.pure_def, List.zip_cons_cons, List.zip_nil_left]
  rfl

theorem readRows?_of_assembled {rows : ByteArray} {order : ByteOrder}
    {entries : List (Tag × Value)}
    (hrows : rows.size = image.height * ((image.width * image.samples * image.bits + 7) / 8))
    (h : IsAssembled order src (packStrip image.compression rows) entries) :
    readRows? (image.layout colour (packStrip image.compression rows).length) src = some rows := by
  apply readRows?_of_one_strip rfl rfl
  have hheight : (image.layout colour (packStrip image.compression rows).length).stripRows 0 =
      image.height := by
    unfold Layout.stripRows ImageForm.layout
    rw [Nat.zero_mul, Nat.sub_zero, Nat.min_self]
  rw [hheight]
  have hneeded : image.height *
      (image.layout colour (packStrip image.compression rows).length).rowBytes = rows.size :=
    hrows.symm
  rw [hneeded]
  exact unpackStrip?_packStrip h.strip_at

theorem isAssembled_write (order : ByteOrder) (image : ImageForm) (rows : ByteArray)
    (further : List (Tag × Value)) :
    IsAssembled order (write order image rows further) (packStrip image.compression rows)
      (image.entries (packStrip image.compression rows).length further) := by
  rw [write_eq]
  exact isAssembled_assemble order _ _

theorem read_write {order : ByteOrder} {rows : ByteArray} (hstatable : image.IsStatable colour)
    (hadmits : image.Admits further)
    (hrows : rows.size = image.height * ((image.width * image.samples * image.bits + 7) / 8))
    (hsize : (write order image rows further).size < 4294967296) :
    ∃ dir, readDirectory? (write order image rows further) = some dir ∧
      Describes dir (write order image rows further)
        (image.entries (packStrip image.compression rows).length further) ∧
      dir.layout? (write order image rows further) =
        some (image.layout colour (packStrip image.compression rows).length) ∧
      readRows? (image.layout colour (packStrip image.compression rows).length)
        (write order image rows further) = some rows := by
  have hassembled := isAssembled_write order image rows further
  have hstrip := hassembled.strip_at.le_size
  have hfew : (image.entries (packStrip image.compression rows).length further).length < 65536 := by
    have hbeside := hadmits.few
    have hextra : image.extraEntries.length ≤ 1 := by
      unfold ImageForm.extraEntries
      split <;> simp
    simp only [ImageForm.entries, ImageForm.shapeEntries, ImageForm.formEntries,
      List.length_append, List.length_cons, List.length_nil]
    omega
  rcases hassembled.readDirectory? hsize hfew with ⟨dir, hread, hdescribes⟩
  refine ⟨dir, hread, hdescribes, ?_, readRows?_of_assembled hrows hassembled⟩
  exact layout?_of_describes hdescribes hstatable hadmits (by omega)

end

end Tiff
end TileAudit
