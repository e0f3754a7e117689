import TileAudit.Shell.Builtins
import TileAudit.Shell.Parser

/-!
# Running shell scripts

Running a command on a state. A script that is still running when its steps are used up is taken for
one that never ends, and so reaches its time limit.
-/

namespace TileAudit
namespace Shell

def Sinks.sink (sinks : Sinks) (stream : Nat) : Sink :=
  if stream = 1 then sinks.output else if stream = 2 then sinks.errors else .nowhere

def Sinks.redirect (sinks : Sinks) (stream : Nat) (sink : Sink) : Sinks :=
  if stream = 1 then { sinks with output := sink }
  else if stream = 2 then { sinks with errors := sink }
  else sinks

def openFile (s : State) (direction : Direction) (path : String) : Except IoKind (State × Sink) :=
  if path = "/dev/null" then .ok (s, .nowhere)
  else
    match s.tree.filePlace s.cwd path with
    | .error kind => .error kind
    | .ok (loc, executable) =>
        match direction, s.tree.entry? loc with
        | .append, some _ => .ok (s, .file loc)
        | _, _ =>
            let tree := s.tree.insert loc (.file (.bytes ByteArray.empty) executable)
            .ok ({ s with tree := tree }, .file loc)

/-- Applies redirections from left to right; `none` after one that fails. -/
def redirectAll (line : Nat) : List Redirection → State → Sinks → State × Option Sinks
  | [], s, sinks => (s, some sinks)
  | r :: rest, s, sinks =>
      let target := expandWhole s r.target
      match r.direction with
      | .duplicate =>
          match target.toNat? with
          | some other => redirectAll line rest s (sinks.redirect r.stream (sinks.sink other))
          | none =>
              if target = "-" then redirectAll line rest s (sinks.redirect r.stream .nowhere)
              else (s.complain sinks line "Bad fd number" 2, none)
      | .input =>
          if target = "/dev/null" || s.tree.pathExists s.cwd target then
            redirectAll line rest s sinks
          else (s.complain sinks line ("cannot open " ++ target ++ ": No such file") 2, none)
      | direction =>
          match openFile s direction target with
          | .ok (s, sink) => redirectAll line rest s (sinks.redirect r.stream sink)
          | .error .isADirectory =>
              (s.complain sinks line ("cannot create " ++ target ++ ": Is a directory") 2, none)
          | .error _ =>
              (s.complain sinks line
                ("cannot create " ++ target ++ ": Directory nonexistent") 2, none)

def assignment? (s : State) : Word → Option (String × String)
  | .text value false :: rest =>
      let name := value.toList.takeWhile isNameChar
      match value.toList.dropWhile isNameChar with
      | '=' :: after =>
          if name.isEmpty || (name.head?.map Char.isDigit).getD true then none
          else some (String.ofList name, String.ofList after ++ expandWhole s rest)
      | _ => none
  | _ => none

/-- Sets the variables at the front of a simple command, and gives the words after them. -/
def assignAll : List Word → State → State × List Word
  | [], s => (s, [])
  | word :: rest, s =>
      match assignment? s word with
      | some (name, value) => assignAll rest (s.setVariable name value)
      | none => (s, word :: rest)

/-- Runs a command in the place of the script, which ends with it. -/
def runInstead (s : State) (sinks : Sinks) (line : Nat) (name : String)
    (arguments : List String) : State :=
  let s := runNamed s sinks line name arguments
  if s.ending.isSome then s else { s with ending := some (.exited s.status) }

def runSimple (s : State) (sinks : Sinks) (line : Nat) (words : List Word)
    (redirections : List Redirection) : State :=
  let (s, words) := assignAll words s
  let texts := words.flatMap (expandWord s)
  match redirectAll line redirections s sinks with
  | (s, none) => s
  | (s, some sinks) =>
      match texts with
      | [] => s.withStatus 0
      | "exec" :: name :: arguments => runInstead s sinks line name arguments
      | name :: arguments => runNamed s sinks line name arguments

def run : Nat → Sinks → Command → State → State
  | 0, _, _, s => s.wait s.limitMillis
  | fuel + 1, sinks, command, s =>
      if s.ending.isSome then s
      else
        match command with
        | .skip => s
        | .simple line words redirections => runSimple s sinks line words redirections
        | .sequence first second => run fuel sinks second (run fuel sinks first s)
        | .andThen first second =>
            let s := run fuel sinks first s
            if s.status = 0 then run fuel sinks second s else s
        | .orElse first second =>
            let s := run fuel sinks first s
            if s.status = 0 then s else run fuel sinks second s
        | .negate body =>
            let s := run fuel sinks body s
            s.withStatus (if s.status = 0 then 1 else 0)
        | .group body => run fuel sinks body s
        | .redirected line body redirections =>
            match redirectAll line redirections s sinks with
            | (s, none) => s
            | (s, some sinks) => run fuel sinks body s
        | .subshell body =>
            let inner := run fuel sinks body s
            let outer :=
              { inner with
                cwd := s.cwd
                bindings := s.bindings
                arguments := s.arguments
                ignored := s.ignored }
            match inner.ending with
            | some (.exited code) => { outer with ending := none, status := code }
            | _ => outer
        | .branch condition yes no =>
            let s := run fuel sinks condition s
            if s.ending.isSome then s
            else if s.status = 0 then run fuel sinks yes s
            else run fuel sinks no (s.withStatus 0)
        | .loop wanted condition body =>
            let tested := run fuel sinks condition s
            if tested.ending.isSome then tested
            else if (tested.status = 0) = wanted then
              run fuel sinks (.loop wanted condition body) (run fuel sinks body tested)
            else tested.withStatus 0
        | .forWords name words body =>
            let texts := (words.map fun words => words.flatMap (expandWord s)).getD s.arguments
            run fuel sinks (.forTexts name texts body) (s.withStatus 0)
        | .forTexts name texts body =>
            match texts with
            | [] => s
            | text :: rest =>
                run fuel sinks (.forTexts name rest body)
                  (run fuel sinks body (s.setVariable name text))
        | .choose subject arms =>
            match arms with
            | .arm patterns body others =>
                if patterns.any fun pattern => fitsWord s pattern (expandWhole s subject) then
                  run fuel sinks body s
                else run fuel sinks (.choose subject others) s
            | _ => s.withStatus 0
        | .arm _ _ _ => s

/-- The number of nested steps that a script is given. -/
def runFuel : Nat := 20000

def runScript (script : String) (s : State) : State :=
  match ofScript? script with
  | none => { s.complain ⟨.stdout, .stderr⟩ 1 "Syntax error" 2 with ending := some (.exited 2) }
  | some command =>
      let s := run runFuel ⟨.stdout, .stderr⟩ command s
      if s.ending.isSome then s else { s with ending := some (.exited s.status) }

end Shell
end TileAudit
