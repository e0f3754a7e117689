/-!
# Colour kinds of tagged image files

What the samples of a tagged image file stand for, with their number of bits.
-/

namespace TileAudit
namespace Tiff

inductive ColourKind where
  | grey (bits : Nat)
  | rgb (bits : Nat)
  | rgba (bits : Nat)
  | cmyk (bits : Nat)
  | ycbcr (bits : Nat)
  /-- Grey with further samples of no known meaning. -/
  | multiband (bits samples : Nat)
deriving DecidableEq, Repr

def ColourKind.name : ColourKind → String
  | grey bits => "Gray(" ++ toString bits ++ ")"
  | rgb bits => "RGB(" ++ toString bits ++ ")"
  | rgba bits => "RGBA(" ++ toString bits ++ ")"
  | cmyk bits => "CMYK(" ++ toString bits ++ ")"
  | ycbcr bits => "YCbCr(" ++ toString bits ++ ")"
  | multiband bits samples =>
      "Multiband \x7b bit_depth: " ++ toString bits ++ ", num_samples: " ++ toString samples ++
        " \x7d"

/-- The colour kind for a photometric interpretation; `none` for a combination that has none. -/
def colourKind? (photometric bits samples : Nat) : Option ColourKind :=
  match photometric, samples with
  | 0, 1 | 1, 1 => some (.grey bits)
  | 0, n | 1, n => some (.multiband bits n)
  | 2, 3 => some (.rgb bits)
  | 2, 4 => some (.rgba bits)
  | 5, 4 => some (.cmyk bits)
  | 6, 3 => some (.ycbcr bits)
  | _, _ => none

end Tiff
end TileAudit
