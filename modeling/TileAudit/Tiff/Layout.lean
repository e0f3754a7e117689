import TileAudit.Tiff.Colour
import TileAudit.Tiff.Directory

/-!
# Layout of the samples in a tagged image file

The shape of the image, the form of its samples, and the strips of rows they lie in.
-/

namespace TileAudit
namespace Tiff

structure Layout where
  width : Nat
  height : Nat
  colour : ColourKind
  bits : Nat
  samples : Nat
  /-- The form of the samples: 1 unsigned, 2 signed, 3 floating-point. -/
  form : Nat
  compression : Nat
  predictor : Nat
  rowsPerStrip : Nat
  /-- The place and the number of bytes of each strip. -/
  strips : List (Nat × Nat)
deriving DecidableEq, Repr

namespace Layout

def rowBytes (layout : Layout) : Nat :=
  (layout.width * layout.samples * layout.bits + 7) / 8

def stripRows (layout : Layout) (strip : Nat) : Nat :=
  min layout.rowsPerStrip (layout.height - strip * layout.rowsPerStrip)

end Layout

/-- The single natural number of a tag: `none` when the field is there and is no natural number. -/
def natural? (dir : Directory) (src : ByteArray) (tag : Tag) (absent : Option Nat) : Option Nat :=
  match dir.field? tag with
  | none => absent
  | some f =>
      match dir.naturals? src f with
      | some (n :: _) => some n
      | _ => none

def naturalList? (dir : Directory) (src : ByteArray) (tag : Tag) (absent : Option (List Nat)) :
    Option (List Nat) :=
  match dir.field? tag with
  | none => absent
  | some f => dir.naturals? src f

/-- The common value of a list, if it has one. -/
def uniform? (values : List Nat) : Option Nat :=
  match values with
  | [] => none
  | n :: rest => if rest.all (· == n) then some n else none

def Directory.layout? (dir : Directory) (src : ByteArray) : Option Layout := do
  let width ← natural? dir src .imageWidth none
  let height ← natural? dir src .imageLength none
  guard (width ≠ 0 ∧ height ≠ 0)
  let photometric ← natural? dir src .photometric none
  let compression ← natural? dir src .compression (some 1)
  let samples ← natural? dir src .samplesPerPixel (some 1)
  guard (samples ≠ 0)
  let form ← uniform? (← naturalList? dir src .sampleFormat (some [1]))
  let depths ← naturalList? dir src .bitsPerSample (some [1])
  guard (depths.length = samples ∨ depths.length = 1)
  let bits ← uniform? depths
  guard (bits ≠ 0)
  let predictor ← natural? dir src .predictor (some 1)
  let planes ← natural? dir src .planarConfiguration (some 1)
  guard (planes = 1 ∨ samples = 1)
  let places ← naturalList? dir src .stripOffsets none
  let sizes ← naturalList? dir src .stripByteCounts none
  let rowsPerStrip ← natural? dir src .rowsPerStrip (some height)
  guard (rowsPerStrip ≠ 0)
  guard (places.length = sizes.length ∧ places.length = (height - 1) / rowsPerStrip + 1)
  let colour ← colourKind? photometric bits samples
  pure
    { width := width
      height := height
      colour := colour
      bits := bits
      samples := samples
      form := form
      compression := compression
      predictor := predictor
      rowsPerStrip := min rowsPerStrip height
      strips := places.zip sizes }

end Tiff
end TileAudit
