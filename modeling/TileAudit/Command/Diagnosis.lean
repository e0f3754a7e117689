import TileAudit.Fault

/-!
# Diagnoses

How a command line that fails tells why: what it was doing, and under that what went wrong. Causes
are indented, and numbered when there is more than one.
-/

namespace TileAudit
namespace CommandLine

structure Diagnosis where
  /-- What failed, in one sentence. -/
  headline : String
  /-- What lies behind it, the nearest cause first. -/
  causes : List String
  /-- The program did not fail by itself but was broken off. -/
  brokenOff : Bool := false
deriving DecidableEq, Repr

namespace Diagnosis

def ofFault : Fault → Diagnosis
  | .brokenOff => ⟨Fault.brokenOff.message, [], true⟩
  | fault => ⟨fault.message, fault.cause?.toList, false⟩

/-- The diagnosis of a fault that came up while something was done. A program that is broken off
does not come to tell what it was doing. -/
def during (activity : String) : Fault → Diagnosis
  | .brokenOff => ofFault .brokenOff
  | fault => ⟨activity, fault.message :: fault.cause?.toList, false⟩

def exitCode (d : Diagnosis) : Nat :=
  if d.brokenOff then 101 else 1

def firstIndent (number : Option Nat) : String :=
  match number with
  | none => "    "
  | some n =>
      let digits := toString n
      String.ofList (List.replicate (5 - digits.length) ' ') ++ digits ++ ": "

def laterIndent (number : Option Nat) : String :=
  match number with
  | none => "    "
  | some _ => "       "

def causeLines (number : Option Nat) (cause : String) : List String :=
  match cause.splitOn "\n" with
  | [] => []
  | first :: rest => (firstIndent number ++ first) :: rest.map (laterIndent number ++ ·)

def causesLines (causes : List String) : List String :=
  match causes with
  | [] => []
  | [cause] => ["", "Caused by:"] ++ causeLines none cause
  | _ => ["", "Caused by:"] ++ causes.zipIdx.flatMap fun c => causeLines (some c.2) c.1

def toLines (d : Diagnosis) : List String :=
  if d.brokenOff then d.headline.splitOn "\n"
  else ("Error: " ++ d.headline).splitOn "\n" ++ causesLines d.causes

end Diagnosis
end CommandLine
end TileAudit
