import TileAudit.Proofs.Lzw
import TileAudit.Proofs.Zlib
import TileAudit.Tiff.Strips
import TileAudit.Tiff.Writer

/-!
# Strips of written files

A strip gives back the rows that were packed into it, whatever the way of packing.
-/

namespace TileAudit
namespace Tiff

theorem unpackStrip?_packStrip {compression : Compression} {src rows : ByteArray} {place : Nat}
    (h : Bytes.HoldsAt src place (packStrip compression rows)) :
    unpackStrip? (compressionNumber compression) src place (packStrip compression rows).length
      rows.size = some rows := by
  have hmin : min src.size (place + (packStrip compression rows).length) =
      place + (packStrip compression rows).length := Nat.min_eq_right h.le_size
  have hpacked := h.extract hmin
  have hwithin := h.le_size
  cases compression with
  | none =>
      have hrows : src.extract place (place + rows.size) = rows := h.extract rfl
      have hsize : place + rows.size ≤ src.size := hwithin
      show (if place + rows.size ≤ src.size then some (src.extract place (place + rows.size))
        else none) = some rows
      rw [if_pos hsize, hrows]
  | lzw =>
      show (let unpacked := (Lzw.unpack (src.extract place _) rows.size).1
        if unpacked.size ≥ rows.size then some (unpacked.extract 0 rows.size) else none) = some rows
      have hsame : (⟨(packStrip .lzw rows).toArray⟩ : ByteArray) = Lzw.pack rows := rfl
      rw [hpacked, hsame, Lzw.unpack_pack]
      dsimp only
      rw [if_pos (Nat.le_refl _), ByteArray.extract_zero_size]
  | deflate =>
      show (let unpacked := Zlib.unpack (src.extract place _) rows.size
        if unpacked.output.size ≥ rows.size then some (unpacked.output.extract 0 rows.size)
        else none) = some rows
      have hsame : (⟨(packStrip .deflate rows).toArray⟩ : ByteArray) = ⟨(Zlib.pack rows).toArray⟩ :=
        rfl
      rw [hpacked, hsame]
      dsimp only
      rw [Zlib.unpack_pack, if_pos (Nat.le_refl _), ByteArray.extract_zero_size]

theorem readRows?_of_one_strip {layout : Layout} {src rows : ByteArray} {place size : Nat}
    (hstrips : layout.strips = [(place, size)]) (hpredictor : layout.predictor = 1)
    (hrows : unpackStrip? layout.compression src place size
      (layout.stripRows 0 * layout.rowBytes) = some rows) : readRows? layout src = some rows := by
  have hstrip : readStrip? layout src 0 place size = some rows := by
    unfold readStrip?
    simp only [hrows, Option.bind_eq_bind, Option.bind_some, unpredict?, hpredictor]
  unfold readRows?
  simp only [hstrips, List.zipIdx_cons, List.zipIdx_nil, List.mapM_cons, List.mapM_nil, hstrip,
    Option.bind_eq_bind, Option.bind_some, Option.pure_def, List.foldl_cons, List.foldl_nil,
    ByteArray.empty_append]

end Tiff
end TileAudit
