import TileAudit.Bytes.CanonicalCode
import TileAudit.Bytes.Order

/-!
# Frames of photographic image files

The segments before the image data: tables of divisors, canonical codes, the shape of the
image and of its components, and which tables each component uses. Only images that
are stored in one sequential scan of eight-bit samples are read.
-/

namespace TileAudit
namespace Jpeg

/-- A component of the image: its number, how often it is sampled across and down, and
its table of divisors. -/
structure Component where
  id : Nat
  across : Nat
  down : Nat
  divisors : Nat
deriving DecidableEq, Repr

structure Frame where
  height : Nat
  width : Nat
  components : List Component
  /-- Tables of divisors by number. -/
  divisors : List (Nat × List Nat)
  /-- Codes by class and number. -/
  codes : List (Nat × CanonicalCode)
  /-- Units between two restarts; zero for none. -/
  restartInterval : Nat
  /-- The colours are stored as they are. -/
  plainColours : Bool

def Frame.empty : Frame :=
  ⟨0, 0, [], [], [], 0, false⟩

structure ScanComponent where
  component : Component
  slow : CanonicalCode
  fast : CanonicalCode

def readDivisors : Nat → List UInt8 → List (Nat × List Nat) → Option (List (Nat × List Nat))
  | _, [], tables => some tables
  | 0, _, _ => none
  | fuel + 1, mark :: rest, tables =>
      let number := mark.toNat % 16
      let size := if mark.toNat / 16 = 0 then 1 else 2
      if rest.length < 64 * size then none
      else
        let values := (List.range 64).map fun i =>
          Bytes.decode .big ((rest.drop (i * size)).take size)
        readDivisors fuel (rest.drop (64 * size)) ((number, values) :: tables)

def readCodes : Nat → List UInt8 → List (Nat × CanonicalCode) →
    Option (List (Nat × CanonicalCode))
  | _, [], codes => some codes
  | 0, _, _ => none
  | fuel + 1, mark :: rest, codes =>
      let counts := (rest.take 16).map UInt8.toNat
      let total := counts.sum
      let symbols := (rest.drop 16).take total
      if counts.length < 16 ∨ symbols.length < total then none
      else
        let code : CanonicalCode := ⟨(0 :: counts).toArray, (symbols.map UInt8.toNat).toArray⟩
        readCodes fuel (rest.drop (16 + total)) ((mark.toNat, code) :: codes)

def readComponents : Nat → List UInt8 → Option (List Component)
  | 0, _ => some []
  | count + 1, id :: sampling :: divisors :: rest => do
      let across := sampling.toNat / 16
      let down := sampling.toNat % 16
      guard (0 < across ∧ across ≤ 4 ∧ 0 < down ∧ down ≤ 4)
      let more ← readComponents count rest
      return ⟨id.toNat, across, down, divisors.toNat⟩ :: more
  | _, _ => none

def Frame.shape? (frame : Frame) : List UInt8 → Option Frame
  | 8 :: h1 :: h0 :: w1 :: w0 :: count :: rest => do
      guard frame.components.isEmpty
      let components ← readComponents count.toNat rest
      let height := h1.toNat * 256 + h0.toNat
      let width := w1.toNat * 256 + w0.toNat
      guard (0 < height ∧ 0 < width)
      return { frame with height := height, width := width, components := components }
  | _ => none

/-- Takes a segment into account; `none` for a segment that is not read. -/
def Frame.add? (frame : Frame) (marker : Nat) (bytes : List UInt8) : Option Frame :=
  match marker with
  | 0xDB => do
      let tables ← readDivisors bytes.length bytes frame.divisors
      return { frame with divisors := tables }
  | 0xC4 => do
      let codes ← readCodes bytes.length bytes frame.codes
      return { frame with codes := codes }
  | 0xC0 | 0xC1 => frame.shape? bytes
  | 0xDD =>
      match bytes with
      | [high, low] => some { frame with restartInterval := high.toNat * 256 + low.toNat }
      | _ => none
  | 0xEE =>
      if bytes.take 5 = "Adobe".toUTF8.data.toList ∧ bytes[11]? = some 0 then
        some { frame with plainColours := true }
      else some frame
  | _ =>
      if 0xC2 ≤ marker ∧ marker ≤ 0xCF then none else some frame

def Frame.scan? (frame : Frame) : Nat → List UInt8 → Option (List ScanComponent)
  | 0, _ => some []
  | count + 1, id :: codes :: rest => do
      let component ← frame.components.find? fun c => c.id = id.toNat
      let slow ← frame.codes.lookup (codes.toNat / 16)
      let fast ← frame.codes.lookup (16 + codes.toNat % 16)
      let more ← frame.scan? count rest
      return ⟨component, slow, fast⟩ :: more
  | _, _ => none

structure Scan where
  frame : Frame
  components : List ScanComponent
  place : Nat

/-- Reads segments up to the image data. -/
def readSegments? (src : ByteArray) : Nat → Nat → Frame → Option Scan
  | 0, _, _ => none
  | fuel + 1, place, frame => do
      let lead ← Bytes.number? .big src place 1
      guard (lead = 0xFF)
      let marker ← Bytes.number? .big src (place + 1) 1
      if marker = 0xFF then readSegments? src fuel (place + 1) frame
      else
        let length ← Bytes.number? .big src (place + 2) 2
        guard (2 ≤ length)
        let bytes ← Bytes.slice? src (place + 4) (length - 2)
        if marker = 0xDA then
          match bytes with
          | count :: rest =>
              let components ← frame.scan? count.toNat rest
              guard (components.length = frame.components.length ∧ components ≠ [])
              return ⟨frame, components, place + 2 + length⟩
          | [] => none
        else
          readSegments? src fuel (place + 2 + length) (← frame.add? marker bytes)

def readScan? (src : ByteArray) : Option Scan := do
  guard (Bytes.slice? src 0 2 = some [0xFF, 0xD8])
  readSegments? src src.size 2 Frame.empty

end Jpeg
end TileAudit
