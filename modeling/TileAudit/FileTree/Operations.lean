import TileAudit.FileTree.Basic
import TileAudit.FileTree.PathText
import TileAudit.Fault

/-!
# Operations on file trees

Finding what a path names, and reading, writing, making and removing it. A path is followed
name by name from the root or from a working directory, and each name on the way has to be in
a directory. An operation that fails says why; what it did before is kept.
-/

namespace TileAudit
namespace FileTree

def step (loc : Location) (name : String) : Location :=
  if name = "." then loc
  else if name = ".." then loc.dropLast
  else loc ++ [name]

/-- The location that names lead to. Every location they lead through has to be a directory. -/
def follow (t : FileTree) : Location → List String → Except IoKind Location
  | loc, [] => .ok loc
  | loc, name :: rest =>
      match t.entry? loc with
      | none => .error .notFound
      | some (.file _ _) => .error .notADirectory
      | some .directory => t.follow (step loc name) rest

def startOf (cwd : Location) (path : String) : Location :=
  if PathText.isAbsolute path then [] else cwd

def locate (t : FileTree) (cwd : Location) (path : String) : Except IoKind Location :=
  if path.isEmpty then .error .notFound
  else t.follow (startOf cwd path) (PathText.names path)

/-- The entry that a path names. A path that ends in a slash names no file. -/
def lookup (t : FileTree) (cwd : Location) (path : String) : Except IoKind (Location × Entry) :=
  match t.locate cwd path with
  | .error kind => .error kind
  | .ok loc =>
      match t.entry? loc with
      | none => .error .notFound
      | some .directory => .ok (loc, .directory)
      | some entry => if PathText.wantsDirectory path then .error .notADirectory else .ok (loc, entry)

def pathExists (t : FileTree) (cwd : Location) (path : String) : Bool :=
  match t.lookup cwd path with
  | .ok _ => true
  | .error _ => false

def pathIsDirectory (t : FileTree) (cwd : Location) (path : String) : Bool :=
  match t.lookup cwd path with
  | .ok (_, entry) => entry.isDirectory
  | .error _ => false

def pathIsFile (t : FileTree) (cwd : Location) (path : String) : Bool :=
  match t.lookup cwd path with
  | .ok (_, entry) => !entry.isDirectory
  | .error _ => false

def readContent (t : FileTree) (cwd : Location) (path : String) : Except IoKind Content :=
  match t.lookup cwd path with
  | .error kind => .error kind
  | .ok (_, .directory) => .error .isADirectory
  | .ok (_, .file content _) => .ok content

def readBytes (t : FileTree) (cwd : Location) (path : String) : Except IoKind ByteArray :=
  (t.readContent cwd path).map Content.toBytes

/-- The place where a path can have a file, and whether the file there can be run. -/
def filePlace (t : FileTree) (cwd : Location) (path : String) : Except IoKind (Location × Bool) :=
  match t.locate cwd path with
  | .error kind => .error kind
  | .ok loc =>
      if PathText.endsInSlash path then .error .isADirectory
      else
        match t.entry? loc with
        | some .directory => .error .isADirectory
        | some (.file _ executable) => .ok (loc, executable)
        | none => .ok (loc, false)

def writeContent (t : FileTree) (cwd : Location) (path : String) (content : Content) :
    Except IoKind FileTree :=
  match t.filePlace cwd path with
  | .error kind => .error kind
  | .ok (loc, executable) =>
      if loc.isEmpty then .error .isADirectory
      else .ok (t.insert loc (.file content executable))

/-- Makes the directories on the way along some names. The last name must not be a file, and
none of the others either. -/
def makeAlong (t : FileTree) : Location → List String → FileTree × Except IoKind Location
  | loc, [] => (t, .ok loc)
  | loc, name :: rest =>
      let next := step loc name
      match t.entry? next with
      | some .directory => t.makeAlong next rest
      | some (.file _ _) => (t, .error (if rest.isEmpty then .alreadyExists else .notADirectory))
      | none => (t.insert next .directory).makeAlong next rest

def withoutPoints (names : List String) : List String :=
  (names.reverse.dropWhile (· = ".")).reverse

/--
Makes a directory and all directories on the way. An empty path asks for nothing. A path that
ends in a point needs the directory to be there already, but not the ones above it.
-/
def makeDirectories (t : FileTree) (cwd : Location) (path : String) :
    FileTree × Except IoKind Unit :=
  let names := PathText.names path
  let bare := withoutPoints names
  let start := startOf cwd path
  if path.isEmpty then (t, .ok ())
  else if bare.length = names.length then
    let (made, outcome) := t.makeAlong start names
    (made, outcome.map fun _ => ())
  else
    let (made, outcome) := t.makeAlong start bare.dropLast
    match outcome with
    | .error kind => (made, .error kind)
    | .ok _ => (made, (made.lookup cwd path).map fun _ => ())

def makeParents (t : FileTree) (cwd : Location) (path : String) : FileTree × Except IoKind Unit :=
  let (made, outcome) :=
    t.makeAlong (startOf cwd path) (withoutPoints (PathText.names path).dropLast)
  (made, outcome.map fun _ => ())

/-- The directory at a path, emptied and then removed. A path that ends in a point or that names
the root cannot be removed itself, but what is in it is. A path that goes through what is in the
directory is not found any more once the directory is empty, and then the directory stays. -/
def removeDirectory (t : FileTree) (cwd : Location) (path : String) :
    FileTree × Except IoKind Unit :=
  match t.lookup cwd path with
  | .error kind => (t, .error kind)
  | .ok (_, .file _ _) => (t, .error .notADirectory)
  | .ok (loc, .directory) =>
      let cleared := t.clear loc
      if cleared.pathExists cwd path then
        match (PathText.names path).getLast? with
        | none => (cleared, .error .resourceBusy)
        | some "." => (cleared, .error .invalidInput)
        | some ".." => (cleared, .error .directoryNotEmpty)
        | some _ => (t.erase loc, .ok ())
      else (cleared, .ok ())

/-- Everything below a directory, each with its path from there; directories end in a slash. The
paths are in the order of their bytes. -/
def listing (t : FileTree) (dir : Location) : List String :=
  let texts := (t.below dir).map fun e =>
    String.intercalate "/" (e.1.drop dir.length) ++ (if e.2.isDirectory then "/" else "")
  texts.mergeSort fun a b => a ≤ b

end FileTree
end TileAudit
