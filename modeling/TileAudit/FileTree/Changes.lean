import TileAudit.FileTree.Basic

/-!
# Changes between two file trees

What has to be removed from one tree, and what has to be made or written, to get another. A
directory comes before what is in it when things are made, and after it when they are removed.
-/

namespace TileAudit
namespace FileTree

inductive Change where
  | removeFile (loc : Location)
  | removeDirectory (loc : Location)
  | makeDirectory (loc : Location)
  | writeFile (loc : Location) (bytes : ByteArray)

/-- Entries that are alike: two directories, or two files with the same bytes. -/
def alike : Entry → Entry → Bool
  | .directory, .directory => true
  | .file a _, .file b _ => a.toBytes == b.toBytes
  | _, _ => false

/-- Entries ordered by their depth. -/
def byDepth (entries : List (Location × Entry)) : List (Location × Entry) :=
  entries.mergeSort fun a b => a.1.length ≤ b.1.length

def removals (before after : FileTree) : List Change :=
  ((byDepth before.entries).reverse.filter fun e => (after.entry? e.1).isNone).map fun e =>
    match e.2 with
    | .directory => .removeDirectory e.1
    | .file _ _ => .removeFile e.1

def additions (before after : FileTree) : List Change :=
  ((byDepth after.entries).filter fun e =>
      !((before.entry? e.1).map (alike e.2)).getD false).map fun e =>
    match e.2 with
    | .directory => .makeDirectory e.1
    | .file content _ => .writeFile e.1 content.toBytes

def changes (before after : FileTree) : List Change :=
  removals before after ++ additions before after

end FileTree
end TileAudit
