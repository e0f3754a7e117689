import TileAudit.Effect

/-!
# Starting programs

A program is started by the system, which waits for it no longer than a limit. What the program does
to the file tree is its own affair; it leaves behind how it ended and what it printed.
-/

namespace TileAudit

structure Invocation where
  program : String
  arguments : List String
  timeoutMillis : Nat
deriving DecidableEq, Repr

structure Finished where
  status : ExitStatus
  stdout : ByteArray
  stderr : ByteArray

class Launcher where
  /-- The file tree after a program, and what it left behind: nothing when the limit was reached. A
  program that cannot be started is told by the reason. -/
  launch : Invocation → FileTree → Location → FileTree × Except IoKind (Option Finished)

def Invocation.run [Launcher] (inv : Invocation) : Effect (Option Finished) :=
  fun w =>
    let (tree, outcome) := Launcher.launch inv w.tree w.cwd
    (Effect.ofIo outcome, { w with tree := tree })

end TileAudit
