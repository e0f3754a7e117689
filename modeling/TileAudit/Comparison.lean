import TileAudit.Tile.Basic

/-!
# Comparing tiles

Two tiles match when their shapes agree and every sample is identical. Of two tiles
of one shape that differ, the signed difference of every sample is kept, the
differing samples are counted, and the first few of them are listed.
-/

namespace TileAudit

/-- The number of differing samples that are listed. -/
def previewLimit : Nat := 10

structure Mismatch where
  col : Nat
  row : Nat
  band : Nat
  expected : UInt8
  actual : UInt8
deriving DecidableEq, Repr

def Mismatch.delta (m : Mismatch) : Int :=
  (m.expected.toNat : Int) - m.actual.toNat

structure Difference where
  height : Nat
  width : Nat
  deltas : Array Int
  size_eq : deltas.size = height * width * tileBands

inductive Comparison where
  | absent
  | shapesDiffer
  | equal
  /-- Some samples differ: the differences, how many are not zero, and the first of them. -/
  | different (difference : Difference) (count : Nat) (preview : List Mismatch)

namespace Comparison

def matched : Comparison → Bool
  | equal => true
  | _ => false

def mismatchCount : Comparison → Nat
  | different _ count _ => count
  | _ => 0

def mismatches : Comparison → List Mismatch
  | different _ _ preview => preview
  | _ => []

/-- The difference, when the shapes agree and some sample does not. -/
def difference? : Comparison → Option Difference
  | different difference _ _ => some difference
  | _ => none

end Comparison

namespace Tile

def byteAt (tile : Tile) (i : Nat) : UInt8 :=
  Bytes.atD tile.bytes i

/-- The offsets, in increasing order, at which two tiles of one shape differ. -/
def differingOffsets (expected actual : Tile) : List Nat :=
  (List.range expected.bytes.size).filter fun i => expected.byteAt i != actual.byteAt i

def mismatchAt (expected actual : Tile) (i : Nat) : Mismatch where
  col := i / tileBands % expected.width
  row := i / tileBands / expected.width
  band := i % tileBands
  expected := expected.byteAt i
  actual := actual.byteAt i

def difference (expected actual : Tile) : Difference where
  height := expected.height
  width := expected.width
  deltas :=
    Array.ofFn fun i : Fin (expected.height * expected.width * tileBands) =>
      ((expected.byteAt i.val).toNat : Int) - (actual.byteAt i.val).toNat
  size_eq := by simp

def compare (expected : Tile) : Option Tile → Comparison
  | none => .absent
  | some actual =>
      if expected.shape = actual.shape then
        if expected.bytes.data = actual.bytes.data then .equal
        else
          let offsets := expected.differingOffsets actual
          .different (expected.difference actual) offsets.length
            ((offsets.take previewLimit).map (expected.mismatchAt actual))
      else
        .shapesDiffer

end Tile
end TileAudit
