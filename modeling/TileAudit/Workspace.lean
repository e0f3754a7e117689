import TileAudit.Effect

/-!
# Workspaces

A scratch directory that belongs to an audit. A file in it marks it as such. An earlier workspace is
cleared, an empty directory is taken, and any other directory is refused, so nobody else's files are
ever removed.
-/

namespace TileAudit

def workspaceMarker : String := ".tilecheck-workspace"

structure Workspace where
  path : String
deriving DecidableEq, Repr

namespace Workspace

/-- What lies at the place where a workspace is wanted. -/
inductive Site where
  | vacant
  /-- A directory with the mark of a workspace. -/
  | marked
  | bare
  /-- A directory with entries and without the mark. -/
  | foreign
deriving DecidableEq, Repr

def siteAt (path : String) (tree : FileTree) (cwd : Location) : Site :=
  match tree.lookup cwd path with
  | .ok (loc, .directory) =>
      if tree.pathIsFile cwd (PathText.join path workspaceMarker) then .marked
      else if (tree.children loc).isEmpty then .bare
      else .foreign
  | _ => .vacant

def prepareSite (path : String) : Effect Unit := do
  match ← Effect.inspect (siteAt path) with
  | .marked =>
      Effect.tell (.clearingWorkspace path)
      Effect.removeDirectory path
  | .foreign => Effect.ofExcept (.error (.config (.foreignDirectory path)))
  | .vacant | .bare => return ()

def create (path : String) : Effect Workspace := do
  prepareSite path
  Effect.makeDirectories path
  Effect.writeBytes (PathText.join path workspaceMarker) ByteArray.empty
  return ⟨path⟩

/-- Removes a workspace. A workspace that is not there any more is removed already. -/
def remove (workspace : Workspace) : Effect Unit := do
  match ← Effect.attempt (Effect.removeDirectory workspace.path) with
  | .ok _ => Effect.tell (.removedWorkspace workspace.path)
  | .error (.io .notFound _) => return ()
  | .error _ => Effect.tell (.cleanupFailed workspace.path)

end Workspace
end TileAudit
