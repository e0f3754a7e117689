import TileAudit.Jpeg.Frame
import TileAudit.Jpeg.Transform

/-!
# Scans of photographic image files

Reading the blocks of an image. The image data are cut at restarts; within a piece, a zero
byte after each byte of ones is dropped, and what remains are code words, most
significant bit first.
-/

namespace TileAudit
namespace Jpeg

/-- The pieces between restarts, latest first, without the stuffed zero bytes. A marker other
than a restart ends the data. -/
def pieces : List UInt8 → ByteArray → List ByteArray → List ByteArray
  | [], piece, done => piece :: done
  | [b], piece, done => (if b = 0xFF then piece else piece.push b) :: done
  | b :: next :: rest, piece, done =>
      if b = 0xFF then
        if next = 0 then pieces rest (piece.push b) done
        else if 0xD0 ≤ next ∧ next ≤ 0xD7 then pieces rest ByteArray.empty (piece :: done)
        else if next = 0xFF then pieces (next :: rest) piece done
        else piece :: done
      else pieces (next :: rest) (piece.push b) done
termination_by bytes => bytes.length

/-- A number of some bits: the lower half of the range stands for negative numbers. -/
def signedNumber (bits n : Nat) : Int :=
  if bits = 0 then 0
  else if n < Nat.pow 2 (bits - 1) then (n : Int) + 1 - (Nat.pow 2 bits : Nat)
  else n

def readFast (code : CanonicalCode) (src : ByteArray) :
    Nat → Nat → Nat → List (Nat × Int) → Option (Nat × List (Nat × Int))
  | 0, _, position, weights => some (position, weights)
  | fuel + 1, index, position, weights =>
      if index ≥ 64 then some (position, weights)
      else
        match code.read .high src position with
        | .found symbol position =>
            let skip := symbol / 16
            let bits := symbol % 16
            if bits = 0 then
              if skip = 15 then readFast code src fuel (index + 16) position weights
              else some (position, weights)
            else
              match Bits.highNumber? src bits position 0 with
              | none => none
              | some n =>
                  readFast code src fuel (index + skip + 1) (position + bits)
                    ((index + skip, signedNumber bits n) :: weights)
        | _ => none

/-- A block that has been read: its samples, the position after it, and the weight of its
slowest wave, which the next block of the component builds on. -/
structure Block where
  samples : Array Int
  position : Nat
  slowest : Int

def readBlock (component : ScanComponent) (divisors : List Nat) (src : ByteArray)
    (position : Nat) (slowest : Int) : Option Block :=
  match component.slow.read .high src position with
  | .found bits position => do
      let n ← Bits.highNumber? src bits position 0
      let slowest := slowest + signedNumber bits n
      let (position, stored) ← readFast component.fast src 64 1 (position + bits) []
      let weights := ((0, slowest) :: stored).foldl
        (fun (block : Array Int) w =>
          block.setIfInBounds ((zigzag[w.1]?).getD 64) (w.2 * ((divisors[w.1]?).getD 1 : Nat)))
        (Array.replicate 64 0)
      return ⟨synthesise weights, position, slowest⟩
  | _ => none

def readBlocks (component : ScanComponent) (divisors : List Nat) (src : ByteArray) :
    Nat → Nat → Int → List (Array Int) → Option (Nat × Int × List (Array Int))
  | 0, position, slowest, blocks => some (position, slowest, blocks)
  | count + 1, position, slowest, blocks => do
      let block ← readBlock component divisors src position slowest
      readBlocks component divisors src count block.position block.slowest (block.samples :: blocks)

structure Plane where
  slowest : Int
  blocks : List (Array Int)

/-- Reads one unit: the blocks of all components that cover one piece of the image. -/
def readUnit (scan : Scan) (src : ByteArray) :
    List (ScanComponent × Plane) → Nat → Option (Nat × List Plane)
  | [], position => some (position, [])
  | (component, plane) :: rest, position => do
      let divisors ← scan.frame.divisors.lookup component.component.divisors
      let count := component.component.across * component.component.down
      let (position, slowest, blocks) ←
        readBlocks component divisors src count position plane.slowest plane.blocks
      let (position, planes) ← readUnit scan src rest position
      return (position, ⟨slowest, blocks⟩ :: planes)

def readUnits (scan : Scan) (src : ByteArray) : Nat → Nat → List Plane → Option (List Plane)
  | 0, _, planes => some planes
  | count + 1, position, planes => do
      let (position, planes) ← readUnit scan src (scan.components.zip planes) position
      readUnits scan src count position planes

def readPieces (scan : Scan) : List ByteArray → Nat → List Plane → Option (List Plane)
  | _, 0, planes => some planes
  | [], _, _ => none
  | piece :: rest, count, planes => do
      let interval := scan.frame.restartInterval
      let here := if interval = 0 then count else min interval count
      let fresh := planes.map fun plane => (⟨0, plane.blocks⟩ : Plane)
      let planes ← readUnits scan piece here 0 fresh
      readPieces scan rest (count - here) planes

/-- The greatest number of samples that a component has across a unit. -/
def Scan.across (scan : Scan) : Nat :=
  scan.frame.components.foldl (fun most c => max most c.across) 1

def Scan.down (scan : Scan) : Nat :=
  scan.frame.components.foldl (fun most c => max most c.down) 1

def Scan.unitsAcross (scan : Scan) : Nat :=
  (scan.frame.width + 8 * scan.across - 1) / (8 * scan.across)

def Scan.unitsDown (scan : Scan) : Nat :=
  (scan.frame.height + 8 * scan.down - 1) / (8 * scan.down)

def readPlanes? (scan : Scan) (src : ByteArray) : Option (List (Array (Array Int))) := do
  let data := (src.extract scan.place src.size).data.toList
  let cut := (pieces data ByteArray.empty []).reverse
  let planes ← readPieces scan cut (scan.unitsAcross * scan.unitsDown)
    (scan.components.map fun _ => (⟨0, []⟩ : Plane))
  return planes.map fun plane => plane.blocks.reverse.toArray

def sampleAt (scan : Scan) (c : Component) (blocks : Array (Array Int)) (row col : Nat) : Int :=
  let x := col * c.across / scan.across
  let y := row * c.down / scan.down
  let unit := y / (8 * c.down) * scan.unitsAcross + x / (8 * c.across)
  let inUnit := y / 8 % c.down * c.across + x / 8 % c.across
  let block := (blocks[unit * (c.across * c.down) + inUnit]?).getD #[]
  at8 block (y % 8) (x % 8) + 128

end Jpeg
end TileAudit
