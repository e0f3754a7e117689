import TileAudit.Launcher
import TileAudit.Text.Utf8

/-!
# Seeders

An audit never makes the tiles it checks. It asks a seeder to fill the cache, and reads back what
the seeder stored. The usual seeder is a program that is told the configuration, the tileset and
the zoom levels.
-/

namespace TileAudit

structure SeedOutput where
  stdout : String
  stderr : String
deriving DecidableEq, Repr

abbrev Seeder := String → String → List UInt32 → Effect SeedOutput

structure SeedingProgram where
  program : String
  /-- The arguments before those that name the task. -/
  leadingArguments : List String := []
  timeoutMillis : Nat
deriving DecidableEq, Repr

namespace SeedingProgram

/-- The seeder with one more leading argument. -/
def withArgument (seeder : SeedingProgram) (argument : String) : SeedingProgram :=
  { seeder with leadingArguments := seeder.leadingArguments ++ [argument] }

def zoomArgument (zooms : List UInt32) : String :=
  String.intercalate "," (zooms.map fun zoom => toString zoom.toNat)

def invocation (seeder : SeedingProgram) (configFile tileset : String) (zooms : List UInt32) :
    Invocation where
  program := seeder.program
  arguments :=
    seeder.leadingArguments ++
      ["-c", configFile, "-t", tileset, "--force", "-z", zoomArgument zooms]
  timeoutMillis := seeder.timeoutMillis

def conclude (finished : Finished) : Effect SeedOutput := do
  let stdout := Utf8.lenient finished.stdout
  let stderr := Utf8.lenient finished.stderr
  if finished.status.isSuccess then
    Effect.tell .seederOutput
    Effect.tellAll (if stderr.isEmpty then [] else [.seederErrors])
    Effect.tell .seederFinished
    return ⟨stdout, stderr⟩
  else
    Effect.tellAll [.seederFailed, .failedSeederOutput, .failedSeederErrors]
    Effect.ofExcept (.error (.seederFailed finished.status stdout stderr))

def seed [Launcher] (seeder : SeedingProgram) : Seeder := fun configFile tileset zooms => do
  Effect.tell (.startingSeeder seeder.program)
  match ← (seeder.invocation configFile tileset zooms).run with
  | some finished => conclude finished
  | none =>
      Effect.tell .seederTimedOut
      Effect.ofExcept (.error (.seederTimeout seeder.timeoutMillis))

end SeedingProgram
end TileAudit
