import TileAudit.Command.Reach
import TileAudit.Database.Tables
import TileAudit.FileTree.Changes
import TileAudit.Image.File
import TileAudit.Process
import TileAudit.Tiff.Codec

/-!
# The program

Loads what a command line reaches into a file tree, runs the command line on it, writes back what
changed, and prints. Programs are run in the file tree too, so a seeder has to be a script or one of
the programs that every system has.
-/

namespace TileAudit
namespace Program

def pathTo (loc : Location) : String :=
  "/" ++ String.intercalate "/" loc

/-- The entry that the disk has at a location, without what is in it. -/
def loadEntry (loc : Location) : IO (Option Entry) := do
  match ← (IO.FS.realPath (pathTo loc)).toBaseIO with
  | .error _ => return none
  | .ok path =>
      if ← path.isDir then return some .directory
      else
        let bytes ← IO.FS.readBinFile path
        return some (.file (.bytes bytes) true)

def loadPath (tree : FileTree) (loc : Location) : IO FileTree :=
  (List.range loc.length).foldlM
    (fun tree depth => do
      let above := loc.take (depth + 1)
      match ← loadEntry above with
      | some entry => return tree.insert above entry
      | none => return tree)
    tree

/-- Adds everything below a location. -/
partial def loadBelow (tree : FileTree) (loc : Location) : IO FileTree := do
  if tree.isDirectory loc then
    let path ← IO.FS.realPath (pathTo loc)
    (← path.readDir).foldlM
      (fun tree entry => do
        let place := loc ++ [entry.fileName]
        match ← loadEntry place with
        | some entry => loadBelow (tree.insert place entry) place
        | none => return tree)
      tree
  else return tree

/-- Adds what a path names, and everything below it. -/
def load (cwd : Location) (tree : FileTree) (path : String) : IO FileTree := do
  let loc := (PathText.names path).foldl FileTree.step (FileTree.startOf cwd path)
  let tree ← loadPath tree loc
  loadBelow tree loc

def apply : FileTree.Change → IO Unit
  | .removeFile loc => IO.FS.removeFile (pathTo loc)
  | .removeDirectory loc => IO.FS.removeDir (pathTo loc)
  | .makeDirectory loc => IO.FS.createDir (pathTo loc)
  | .writeFile loc bytes => IO.FS.writeBinFile (pathTo loc) bytes

def environment : IO Environment :=
  CommandLine.variableNames.filterMapM fun name => do
    return (← IO.getEnv name).map fun value => (name, value)

def run (words : List String) : IO UInt32 := do
  let env ← environment
  let cwd := PathText.names (← IO.currentDir).toString
  let start ← loadPath FileTree.empty cwd
  let before ← (CommandLine.pathsOf env words).foldlM (load cwd) start
  let (completion, world) := CommandLine.execute env words ⟨before, cwd, []⟩
  (FileTree.changes before world.tree).forM apply
  for event in eventsShown completion.shown world.events do
    IO.println (event.level.name ++ " " ++ event.text)
  for line in completion.stdout do IO.println line
  for line in completion.stderr do IO.eprintln line
  return UInt32.ofNat completion.exit

end Program
end TileAudit

def main (words : List String) : IO UInt32 :=
  TileAudit.Program.run words
