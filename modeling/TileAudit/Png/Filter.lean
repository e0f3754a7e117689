import TileAudit.Bytes.Basic

/-!
# Row filters

Each row is stored after a byte that names a filter: the row's bytes are differences
from the byte one pixel to the left, from the one above, from the mean of the two, or
from the one of left, above and above-left that is nearest to left + above - above-left.
-/

namespace TileAudit
namespace Png

inductive Filter where
  | none
  | left
  | above
  | mean
  | nearest
deriving DecidableEq, Repr

def Filter.ofNumber? : Nat → Option Filter
  | 0 => some .none
  | 1 => some .left
  | 2 => some .above
  | 3 => some .mean
  | 4 => some .nearest
  | _ => Option.none

/-- The prediction from the bytes to the left, above, and above to the left. -/
def Filter.predict (filter : Filter) (a b c : UInt8) : UInt8 :=
  match filter with
  | .none => 0
  | .left => a
  | .above => b
  | .mean => UInt8.ofNat ((a.toNat + b.toNat) / 2)
  | .nearest =>
      let p : Int := a.toNat + b.toNat - c.toNat
      let toA := (p - a.toNat).natAbs
      let toB := (p - b.toNat).natAbs
      let toC := (p - c.toNat).natAbs
      if toA ≤ toB ∧ toA ≤ toC then a
      else if toB ≤ toC then b
      else c

def unfilterRow (filter : Filter) (pixelBytes : Nat) (above : Array UInt8)
    (row : Array UInt8) : Array UInt8 :=
  row.foldl
    (fun done difference =>
      let i := done.size
      let a := if i < pixelBytes then 0 else (done[i - pixelBytes]?).getD 0
      let b := (above[i]?).getD 0
      let c := if i < pixelBytes then 0 else (above[i - pixelBytes]?).getD 0
      done.push (difference + filter.predict a b c))
    (Array.mkEmpty row.size)

/-- The rows of a pass, latest first; `none` when a filter is unknown or bytes are missing. -/
def unfilterRows (src : ByteArray) (pixelBytes rowBytes : Nat) :
    Nat → Nat → List (Array UInt8) → Option (List (Array UInt8))
  | 0, _, rows => some rows
  | count + 1, place, rows => do
      let number ← Bytes.at? src place
      let filter ← Filter.ofNumber? number.toNat
      guard (place + 1 + rowBytes ≤ src.size)
      let stored := Bytes.between src (place + 1) (place + 1 + rowBytes)
      let above := rows.headD #[]
      unfilterRows src pixelBytes rowBytes count (place + 1 + rowBytes)
        (unfilterRow filter pixelBytes above stored :: rows)

end Png
end TileAudit
