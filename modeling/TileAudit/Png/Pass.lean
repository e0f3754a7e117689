import TileAudit.Png.Filter
import TileAudit.Png.Header

/-!
# Passes over an image

An image is stored as one pass over all pixels, or as seven passes over ever finer
lattices. Every pixel lies in exactly one pass.
-/

namespace TileAudit
namespace Png

/-- A lattice of pixels: its first column and row, and the steps between its columns
and between its rows. -/
structure Lattice where
  firstCol : Nat
  firstRow : Nat
  colStep : Nat
  rowStep : Nat
deriving DecidableEq, Repr

namespace Lattice

def cols (l : Lattice) (width : Nat) : Nat :=
  (width - l.firstCol + l.colStep - 1) / l.colStep

def rows (l : Lattice) (height : Nat) : Nat :=
  (height - l.firstRow + l.rowStep - 1) / l.rowStep

/-- The lattice position of a pixel, if the pixel is on the lattice. -/
def position? (l : Lattice) (row col : Nat) : Option (Nat × Nat) :=
  if l.firstRow ≤ row ∧ l.firstCol ≤ col ∧ (row - l.firstRow) % l.rowStep = 0 ∧
      (col - l.firstCol) % l.colStep = 0 then
    some ((row - l.firstRow) / l.rowStep, (col - l.firstCol) / l.colStep)
  else
    none

end Lattice

def lattices (interlaced : Bool) : List Lattice :=
  if interlaced then
    [⟨0, 0, 8, 8⟩, ⟨4, 0, 8, 8⟩, ⟨0, 4, 4, 8⟩, ⟨2, 0, 4, 4⟩, ⟨0, 2, 2, 4⟩, ⟨1, 0, 2, 2⟩,
      ⟨0, 1, 1, 2⟩]
  else
    [⟨0, 0, 1, 1⟩]

structure Pass where
  lattice : Lattice
  rows : Array (Array UInt8)

def readPasses? (header : Header) (src : ByteArray) :
    List Lattice → Nat → Option (List Pass)
  | [], _ => some []
  | lattice :: rest, place =>
      let cols := lattice.cols header.width
      let rows := lattice.rows header.height
      if cols = 0 ∨ rows = 0 then readPasses? header src rest place
      else do
        let rowBytes := header.rowBytes cols
        let read ← unfilterRows src (max 1 (header.pixelBits / 8)) rowBytes rows place []
        let passes ← readPasses? header src rest (place + rows * (rowBytes + 1))
        return ⟨lattice, read.reverse.toArray⟩ :: passes

/-- A sample of some bits in a row. -/
def sampleInRow (depth : Nat) (row : Array UInt8) (index : Nat) : Nat :=
  if depth = 16 then
    ((row[2 * index]?).getD 0).toNat * 256 + ((row[2 * index + 1]?).getD 0).toNat
  else
    let position := index * depth
    ((row[position / 8]?).getD 0).toNat / Nat.pow 2 (8 - depth - position % 8) % Nat.pow 2 depth

def storedSample (header : Header) (passes : List Pass) (row col channel : Nat) : Nat :=
  let found := passes.findSome? fun pass =>
    (pass.lattice.position? row col).map fun position => (pass, position)
  match found with
  | none => 0
  | some (pass, position) =>
      sampleInRow header.depth ((pass.rows[position.1]?).getD #[])
        (position.2 * header.colour.samples + channel)

end Png
end TileAudit
