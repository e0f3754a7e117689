import TileAudit.Launcher
import TileAudit.Shell.Run
import TileAudit.Text.Utf8

/-!
# Programs

Starting a program and waiting for it, but no longer than a limit. A program is one of a few that
every system has, or a script in the file tree. Starting can be refused; that comes before any
limit.
-/

namespace TileAudit

namespace Process

inductive Program where
  /-- The command interpreter. -/
  | shell
  | succeed
  | fail
  | echo
  /-- A script, by the path it was started with and its text. -/
  | script (path text : String)
deriving DecidableEq, Repr

/-- The programs that every system has. -/
def systemPrograms : List (String × Program) :=
  [("sh", .shell), ("dash", .shell), ("bash", .shell), ("true", .succeed), ("false", .fail),
    ("echo", .echo)]

def systemDirectories : List String :=
  ["/bin/", "/usr/bin/"]

def systemProgramAt? (path : String) : Option Program :=
  systemPrograms.findSome? fun p =>
    if systemDirectories.any fun dir => path = dir ++ p.1 then some p.2 else none

def interpreter? (text : String) : Option String :=
  match text.toList with
  | '#' :: '!' :: rest =>
      let line := rest.takeWhile (· ≠ '\n')
      some (String.ofList ((line.dropWhile (· = ' ')).takeWhile (· ≠ ' ')))
  | _ => none

/-- A script that can be run: the interpreter it asks for is the shell. -/
def runnable (path text : String) : Except IoKind Program :=
  match interpreter? text with
  | none => .ok (.script path text)
  | some interpreter =>
      match systemProgramAt? interpreter with
      | some .shell => .ok (.script path text)
      | _ => if interpreter = "/usr/bin/env" then .ok (.script path text) else .error .notFound

/-- Finds a program. A name without a slash is one of the system's; a path names a file. -/
def find (tree : FileTree) (cwd : Location) (program : String) : Except IoKind Program :=
  if program.toList.contains '/' then
    match systemProgramAt? program with
    | some found => .ok found
    | none =>
        match tree.lookup cwd program with
        | .error kind => .error kind
        | .ok (_, .directory) => .error .permissionDenied
        | .ok (_, .file content executable) =>
            if executable then runnable program (Utf8.lenient content.toBytes)
            else .error .permissionDenied
  else
    match systemPrograms.lookup program with
    | some found => .ok found
    | none => .error .notFound

def initialState (tree : FileTree) (cwd : Location) (name : String) (arguments : List String)
    (limitMillis : Nat) : Shell.State where
  tree := tree
  cwd := cwd
  name := name
  arguments := arguments
  bindings := []
  stdout := ByteArray.empty
  stderr := ByteArray.empty
  status := 0
  elapsedMillis := 0
  limitMillis := limitMillis
  ignored := []
  ending := none

def runShell (tree : FileTree) (cwd : Location) (arguments : List String) (limitMillis : Nat) :
    Shell.State :=
  let start (name : String) (rest : List String) : Shell.State :=
    initialState tree cwd name rest limitMillis
  match arguments with
  | [] => { start "sh" [] with ending := some (.exited 0) }
  | "-c" :: [] =>
      let s := (start "sh" []).emitText .stderr "sh: 0: -c requires an argument\n"
      { s with ending := some (.exited 2) }
  | "-c" :: script :: [] => Shell.runScript script (start "sh" [])
  | "-c" :: script :: name :: rest => Shell.runScript script (start name rest)
  | path :: rest =>
      match tree.readBytes cwd path with
      | .ok bytes => Shell.runScript (Utf8.lenient bytes) (start path rest)
      | .error _ =>
          let s := (start "sh" []).emitText .stderr
            ("sh: 0: cannot open " ++ path ++ ": No such file\n")
          { s with ending := some (.exited 2) }

/-- What a state leaves behind; nothing when the limit was reached. -/
def finished? (s : Shell.State) : Option Finished :=
  match s.ending with
  | some (.exited code) => some ⟨.exited code, s.stdout, s.stderr⟩
  | some (.killed signal) => some ⟨.killed signal false, s.stdout, s.stderr⟩
  | some .timedOut | none => none

def runFound (tree : FileTree) (cwd : Location) (program : Program) (inv : Invocation) :
    FileTree × Option Finished :=
  let plain (code : Nat) (text : String) : FileTree × Option Finished :=
    (tree, some ⟨.exited code, text.toUTF8, ByteArray.empty⟩)
  let ofState (s : Shell.State) : FileTree × Option Finished :=
    (s.tree, finished? s)
  if inv.timeoutMillis = 0 then (tree, none)
  else
    match program with
    | .succeed => plain 0 ""
    | .fail => plain 1 ""
    | .echo => plain 0 (String.intercalate " " inv.arguments ++ "\n")
    | .shell => ofState (runShell tree cwd inv.arguments inv.timeoutMillis)
    | .script path text =>
        ofState
          (Shell.runScript text (initialState tree cwd path inv.arguments inv.timeoutMillis))

def launch (inv : Invocation) (tree : FileTree) (cwd : Location) :
    FileTree × Except IoKind (Option Finished) :=
  match find tree cwd inv.program with
  | .error kind => (tree, .error kind)
  | .ok program =>
      let (tree, finished) := runFound tree cwd program inv
      (tree, .ok finished)

end Process

instance : Launcher where
  launch := Process.launch

end TileAudit
