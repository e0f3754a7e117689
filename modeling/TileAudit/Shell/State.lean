import TileAudit.FileTree.Operations
import TileAudit.Shell.Syntax
import TileAudit.Text.Numeral

/-!
# State of a running script

A script runs on a file tree. It has arguments and variables, two output streams, and a clock that
only waiting moves. When the clock reaches the limit, the script is stopped.
-/

namespace TileAudit
namespace Shell

inductive Ending where
  | exited (code : Nat)
  | killed (signal : Nat)
  | timedOut
deriving DecidableEq, Repr

inductive Sink where
  | stdout
  | stderr
  | file (loc : Location)
  | nowhere
deriving DecidableEq, Repr

structure Sinks where
  output : Sink
  errors : Sink

structure State where
  tree : FileTree
  cwd : Location
  name : String
  arguments : List String
  bindings : List (String × String)
  stdout : ByteArray
  stderr : ByteArray
  status : Nat
  elapsedMillis : Nat
  limitMillis : Nat
  /-- The signals that are ignored. -/
  ignored : List Nat
  ending : Option Ending

namespace State

def emit (s : State) (sink : Sink) (bytes : ByteArray) : State :=
  match sink with
  | .stdout => { s with stdout := s.stdout ++ bytes }
  | .stderr => { s with stderr := s.stderr ++ bytes }
  | .nowhere => s
  | .file loc =>
      match s.tree.entry? loc with
      | some (.file content executable) =>
          let longer := Content.bytes (content.toBytes ++ bytes)
          { s with tree := s.tree.insert loc (.file longer executable) }
      | _ => s

def emitText (s : State) (sink : Sink) (text : String) : State :=
  s.emit sink text.toUTF8

def withStatus (s : State) (status : Nat) : State :=
  { s with status := status }

def complain (s : State) (sinks : Sinks) (line : Nat) (message : String) (status : Nat) : State :=
  (s.emitText sinks.errors (s.name ++ ": " ++ toString line ++ ": " ++ message ++ "\n")).withStatus
    status

def wait (s : State) (millis : Nat) : State :=
  let now := s.elapsedMillis + millis
  if now ≥ s.limitMillis then
    { s with elapsedMillis := s.limitMillis, ending := some .timedOut }
  else
    { s with elapsedMillis := now, status := 0 }

def parameter (s : State) (name : String) : String :=
  if name = "0" then s.name
  else if name = "#" then toString s.arguments.length
  else if name = "?" then toString s.status
  else if name = "$" then "4242"
  else if name = "@" ∨ name = "*" then String.intercalate " " s.arguments
  else
    match name.toNat? with
    | some n => (s.arguments[n - 1]?).getD ""
    | none => (s.bindings.lookup name).getD ""

def setVariable (s : State) (name value : String) : State :=
  { s with bindings := (name, value) :: s.bindings.filter fun v => v.1 ≠ name }

end State

/-- Texts that are being put together: the finished ones, latest first, and the one that has
been begun. -/
structure Fields where
  done : List String
  current : Option String

namespace Fields

def add (f : Fields) (text : String) : Fields :=
  ⟨f.done, some (f.current.getD "" ++ text)⟩

def finish (f : Fields) : Fields :=
  match f.current with
  | some text => ⟨text :: f.done, none⟩
  | none => f

def addAll (f : Fields) : List String → Fields
  | [] => f
  | [text] => f.add text
  | text :: rest => addAll (f.add text).finish rest

/-- Adds a value that is split at its blanks. -/
def addSplit (f : Fields) (value : String) : Fields :=
  let isGap (c : Char) : Bool := c = ' ' || c = '\t' || c = '\n'
  let step (f : Fields) (c : Char) : Fields :=
    if isGap c then f.finish else f.add (String.singleton c)
  value.toList.foldl step f

end Fields

def expandParts (s : State) : List Part → Fields → Fields
  | [], f => f
  | .text value quoted :: rest, f =>
      expandParts s rest (if value.isEmpty && !quoted then f else f.add value)
  | .parameter name quoted :: rest, f =>
      let f :=
        if quoted && name = "@" then f.addAll s.arguments
        else if quoted then f.add (s.parameter name)
        else if name = "@" || name = "*" then
          s.arguments.foldl (fun f argument => (f.addSplit argument).finish) f
        else f.addSplit (s.parameter name)
      expandParts s rest f

/-- The texts that a word stands for. A quoted list of all arguments alone stands for as many texts
as there are arguments, even for none. -/
def expandWord (s : State) (word : Word) : List String :=
  let parts :=
    match word with
    | [.text "" true, .parameter "@" true] => [.parameter "@" true]
    | parts => parts
  (expandParts s parts ⟨[], none⟩).finish.done.reverse

def expandWhole (s : State) (word : Word) : String :=
  String.join (word.map fun part =>
    match part with
    | .text value _ => value
    | .parameter name _ => s.parameter name)

/-- The characters of a pattern; those from quotes or parameters stand for themselves. -/
def patternChars (s : State) (word : Word) : List (Char × Bool) :=
  word.flatMap fun part =>
    match part with
    | .text value quoted => value.toList.map fun c => (c, quoted)
    | .parameter name quoted => (s.parameter name).toList.map fun c => (c, quoted)

/-- A text that a pattern fits: a star stands for anything, a question mark for one character. -/
def fits : Nat → List (Char × Bool) → List Char → Bool
  | 0, _, _ => false
  | _, [], text => text.isEmpty
  | fuel + 1, (c, quoted) :: pattern, text =>
      if c = '*' && !quoted then
        fits fuel pattern text ||
          match text with
          | [] => false
          | _ :: rest => fits fuel ((c, quoted) :: pattern) rest
      else
        match text with
        | [] => false
        | d :: rest => ((c = '?' && !quoted) || c = d) && fits fuel pattern rest

def fitsWord (s : State) (pattern : Word) (text : String) : Bool :=
  let chars := patternChars s pattern
  fits (chars.length + text.length + 1) chars text.toList

end Shell
end TileAudit
