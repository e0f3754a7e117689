import TileAudit.Event
import TileAudit.FileTree.Operations

/-!
# Effects

An audit works on a file tree from a working directory and tells events. An effect is a
function on that state that gives a value or a fault; the state is kept either way.
-/

namespace TileAudit

structure World where
  tree : FileTree
  /-- The directory that relative paths begin in. -/
  cwd : Location
  /-- The events so far, in their order. -/
  events : List Event

abbrev Effect (α : Type) : Type :=
  ExceptT Fault (StateM World) α

namespace Effect

def run {α : Type} (step : Effect α) (w : World) : Except Fault α × World :=
  step w

def tell (event : Event) : Effect Unit :=
  fun w => (.ok (), { w with events := w.events ++ [event] })

def tellAll (events : List Event) : Effect Unit :=
  fun w => (.ok (), { w with events := w.events ++ events })

def ofExcept {α : Type} (value : Except Fault α) : Effect α :=
  fun w => (value, w)

def ofIo {α : Type} (value : Except IoKind α) : Except Fault α :=
  match value with
  | .ok a => .ok a
  | .error kind => .error (Fault.ofIo kind)

def inspect {α : Type} (f : FileTree → Location → α) : Effect α :=
  fun w => (.ok (f w.tree w.cwd), w)

def read {α : Type} (f : FileTree → Location → Except IoKind α) : Effect α :=
  fun w => (ofIo (f w.tree w.cwd), w)

def change (f : FileTree → Location → Except IoKind FileTree) : Effect Unit :=
  fun w =>
    match f w.tree w.cwd with
    | .ok tree => (.ok (), { w with tree := tree })
    | .error kind => (.error (Fault.ofIo kind), w)

/-- Changes the file tree, and may be refused part of the way. -/
def changePartly (f : FileTree → Location → FileTree × Except IoKind Unit) : Effect Unit :=
  fun w =>
    let (tree, outcome) := f w.tree w.cwd
    (ofIo outcome, { w with tree := tree })

def attempt {α : Type} (step : Effect α) : Effect (Except Fault α) :=
  fun w =>
    let (outcome, w) := step w
    (.ok outcome, w)

/-- Runs a step, and after it a step that never fails, whatever became of the first one. -/
def thenAlways {α : Type} (step : Effect α) (last : Effect Unit) : Effect α :=
  fun w =>
    let (outcome, w) := step w
    let (_, w) := last w
    (outcome, w)

def writeBytes (path : String) (bytes : ByteArray) : Effect Unit :=
  change fun tree cwd => tree.writeContent cwd path (.bytes bytes)

def makeDirectories (path : String) : Effect Unit :=
  changePartly fun tree cwd => tree.makeDirectories cwd path

def makeParents (path : String) : Effect Unit :=
  changePartly fun tree cwd => tree.makeParents cwd path

def removeDirectory (path : String) : Effect Unit :=
  changePartly fun tree cwd => tree.removeDirectory cwd path

end Effect
end TileAudit
