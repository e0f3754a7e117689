import TileAudit.Binary64.Positional

/-!
# What can be wrong with a raster

The reasons for which samples, a georeference or a raster file are refused, and
their wording.
-/

namespace TileAudit

inductive RasterFault where
  | rotated
  /-- A pixel has no usable size. -/
  | degeneratePixel (width height : Float)
  /-- An extent is to be divided into no pixels. -/
  | noPixels
  | noSamples (width height bands : Nat)
  | tooWide (width : Nat)
  | tooHigh (height : Nat)
  /-- The shape holds more samples than can be addressed. -/
  | shapeOverflow
  | tooFewSamples
  | tooManySamples
  /-- The file's samples are no 8-bit red, green and blue. -/
  | unsupportedColour (colour : String)
  | missingPixelScale
  | missingTiepoint
  | signedSamples
  | wrongDepth (colour : String)
  | notEncoded (reason : String)
  /-- Any other reason, in its own words. -/
  | other (reason : String)

def RasterFault.message : RasterFault → String
  | .rotated => "Rotated geo-transforms are not supported"
  | .degeneratePixel width height =>
      "Degenerate pixel size: " ++ Binary64.positional width ++ " x " ++
        Binary64.positional height
  | .noPixels => "Raster has zero dimensions"
  | .noSamples width height bands =>
      "Raster has zero dimensions: " ++ toString width ++ "x" ++ toString height ++ "x" ++
        toString bands
  | .tooWide width => "Width " ++ toString width ++ " too large"
  | .tooHigh height => "Height " ++ toString height ++ " too large"
  | .shapeOverflow => "ShapeError/Overflow: arithmetic overflow"
  | .tooFewSamples => "ShapeError/OutOfBounds: out of bounds indexing"
  | .tooManySamples => "ShapeError/IncompatibleShape: incompatible shapes"
  | .unsupportedColour colour =>
      "Unsupported color type " ++ colour ++ " (expected 8-bit RGB)"
  | .missingPixelScale => "Missing ModelPixelScale tag"
  | .missingTiepoint => "Missing ModelTiepoint tag"
  | .signedSamples => "Expected 8-bit unsigned samples"
  | .wrongDepth colour => "Expected 8-bit samples, got " ++ colour
  | .notEncoded reason => "Could not encode tile: " ++ reason
  | .other reason => reason

end TileAudit
