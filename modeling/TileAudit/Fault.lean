import TileAudit.ExitStatus
import TileAudit.Raster.Fault
import TileAudit.Text.Blank
import TileAudit.Text.Quoted

/-!
# Faults

Everything that ends an audit early, and its wording. A tile that is missing or that
does not decode is no fault: it is a comparison that fails.
-/

namespace TileAudit

inductive IoKind where
  | notFound
  | permissionDenied
  | alreadyExists
  | notADirectory
  | isADirectory
  | invalidInput
  | directoryNotEmpty
  | resourceBusy
deriving DecidableEq, Repr

def IoKind.text : IoKind → String
  | .notFound => "No such file or directory (os error 2)"
  | .permissionDenied => "Permission denied (os error 13)"
  | .resourceBusy => "Device or resource busy (os error 16)"
  | .alreadyExists => "File exists (os error 17)"
  | .notADirectory => "Not a directory (os error 20)"
  | .isADirectory => "Is a directory (os error 21)"
  | .invalidInput => "Invalid argument (os error 22)"
  | .directoryNotEmpty => "Directory not empty (os error 39)"

inductive ConfigFault where
  | unreadableTemplate (path reason : String)
  | missingPlaceholder (token : String)
  /-- The directory holds files of somebody else. -/
  | foreignDirectory (path : String)
  | unknownBackend (name : String)
  /-- The name cannot stand in a query. -/
  | invalidTable (name : String)
  /-- Any other reason, in its own words. -/
  | other (reason : String)
deriving DecidableEq, Repr

def ConfigFault.message : ConfigFault → String
  | .unreadableTemplate path reason => "Cannot read template " ++ path ++ ": " ++ reason
  | .missingPlaceholder token => "Template is missing placeholder " ++ token
  | .foreignDirectory path =>
      "Refusing to use " ++ path ++
        ": directory is not empty and was not created by tilecheck"
  | .unknownBackend name => "Unknown backend: " ++ name
  | .invalidTable name => "Invalid table name: " ++ Text.quoted name
  | .other reason => reason

/-- What ends an audit early. All of it is told to the caller, except for the last: samples that
cannot be addressed break the program off where it stands. -/
inductive Fault where
  | io (kind : IoKind) (text : String)
  | tiffEncode (reason : String)
  | tiffDecode (reason : String)
  | invalidRaster (fault : RasterFault)
  /-- The stored tile has a number of bands that no tile has. -/
  | unexpectedBandCount (count : Nat)
  | store (reason : String)
  | seederFailed (status : ExitStatus) (stdout stderr : String)
  | seederTimeout (limitMillis : Nat)
  | config (fault : ConfigFault)
  | brokenOff

namespace Fault

def ofIo (kind : IoKind) : Fault :=
  .io kind kind.text

def message : Fault → String
  | io _ text => "I/O error: " ++ text
  | tiffEncode reason => "TIFF encoding error: " ++ reason
  | tiffDecode reason => "TIFF decoding error: " ++ reason
  | invalidRaster fault => "Invalid raster: " ++ fault.message
  | unexpectedBandCount count =>
      "Unexpected number of bands in actual tile: " ++ toString count
  | store reason => "Tile store error: " ++ reason
  | seederFailed status _ stderr =>
      "Seeder failed with " ++ status.text ++ ": " ++ Text.trim stderr
  | seederTimeout limitMillis =>
      "Seeder did not finish within " ++ toString (limitMillis / 1000) ++ "s"
  | config fault => "Configuration error: " ++ fault.message
  | brokenOff => "capacity overflow"

def cause? : Fault → Option String
  | io _ text => some text
  | _ => none

end Fault
end TileAudit
