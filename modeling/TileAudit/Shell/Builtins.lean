import TileAudit.ExitStatus
import TileAudit.Shell.State

/-!
# Commands of the shell

The commands that scripts use: printing, waiting, sending a signal to oneself, tests, and handling
files.
-/

namespace TileAudit
namespace Shell

def readOctal : Nat → Nat → List Char → Nat × List Char
  | 0, value, rest => (value, rest)
  | _, value, [] => (value, [])
  | count + 1, value, c :: rest =>
      if '0' ≤ c ∧ c ≤ '7' then readOctal count (8 * value + (c.toNat - '0'.toNat)) rest
      else (value, c :: rest)

def escapedChar? : Char → Option Char
  | 'a' => some '\x07'
  | 'b' => some '\x08'
  | 'f' => some '\x0c'
  | 'n' => some '\n'
  | 'r' => some '\r'
  | 't' => some '\t'
  | 'v' => some '\x0b'
  | '\\' => some '\\'
  | _ => none

/-- The bytes of a text whose escapes are replaced. Octal escapes begin with a zero if `zero`
holds. -/
def unescape (zero : Bool) : Nat → List Char → List UInt8 → List UInt8
  | 0, _, done => done.reverse
  | _, [], done => done.reverse
  | fuel + 1, c :: rest, done =>
      let plain (c : Char) (done : List UInt8) : List UInt8 :=
        (String.singleton c).toUTF8.data.toList.reverse ++ done
      if c = '\\' then
        match rest with
        | [] => unescape zero fuel rest (plain c done)
        | e :: after =>
            match escapedChar? e with
            | some d => unescape zero fuel after (plain d done)
            | none =>
                if '0' ≤ e ∧ e ≤ '7' ∧ (!zero || e = '0') then
                  let (value, after) := readOctal 3 0 (if zero then after else rest)
                  unescape zero fuel after (UInt8.ofNat value :: done)
                else unescape zero fuel rest (plain c done)
      else unescape zero fuel rest (plain c done)

def unescapeText (zero : Bool) (text : String) : List UInt8 :=
  unescape zero (text.length + 1) text.toList []

structure Printed where
  bytes : List UInt8
  arguments : List String

def printOnce : Nat → List Char → Printed → Printed
  | 0, _, p => p
  | _, [], p => p
  | fuel + 1, '%' :: kind :: rest, p =>
      let argument := p.arguments.headD ""
      let add (bytes : List UInt8) (left : List String) : Printed :=
        ⟨bytes.reverse ++ p.bytes, left⟩
      let next : Printed :=
        if kind = '%' then add "%".toUTF8.data.toList p.arguments
        else if kind = 's' then add argument.toUTF8.data.toList (p.arguments.drop 1)
        else if kind = 'b' then add (unescapeText true argument) (p.arguments.drop 1)
        else if kind = 'd' || kind = 'i' then
          add (toString (argument.toInt?.getD 0)).toUTF8.data.toList (p.arguments.drop 1)
        else if kind = 'c' then
          add (argument.toUTF8.data.toList.take 1) (p.arguments.drop 1)
        else add (String.ofList ['%', kind]).toUTF8.data.toList p.arguments
      printOnce fuel rest next
  | fuel + 1, chars, p =>
      let plain := chars.takeWhile (· ≠ '%')
      if plain.isEmpty then printOnce fuel (chars.drop 1) ⟨0x25 :: p.bytes, p.arguments⟩
      else
        printOnce fuel (chars.dropWhile (· ≠ '%'))
          ⟨(unescapeText false (String.ofList plain)).reverse ++ p.bytes, p.arguments⟩

/-- Prints with a format, again and again while arguments are left and the format takes some. -/
def printAll (format : String) : Nat → Printed → Printed
  | 0, p => p
  | fuel + 1, p =>
      let next := printOnce (format.length + 1) format.toList p
      if next.arguments.isEmpty || next.arguments.length = p.arguments.length then next
      else printAll format fuel next

def millis? (text : String) : Option Nat :=
  let chars := text.toList
  let whole := chars.takeWhile Char.isDigit
  let scale (rest : List Char) : Option Nat :=
    match rest with
    | [] | ['s'] => some 1
    | ['m'] => some 60
    | ['h'] => some 3600
    | ['d'] => some 86400
    | _ => none
  let value (digits : List Char) : Nat :=
    digits.foldl (fun n c => 10 * n + (c.toNat - '0'.toNat)) 0
  match chars.dropWhile Char.isDigit with
  | '.' :: rest =>
      let fraction := rest.takeWhile Char.isDigit
      if whole.isEmpty && fraction.isEmpty then none
      else
        (scale (rest.dropWhile Char.isDigit)).map fun factor =>
          factor * (1000 * value whole + value ((fraction ++ ['0', '0', '0']).take 3))
  | rest =>
      if whole.isEmpty then none else (scale rest).map fun factor => factor * 1000 * value whole

/-- What a signal does to a script that does not ignore it. -/
def State.receive (s : State) (signal : Nat) : State :=
  if s.ignored.contains signal && signal ≠ 9 && signal ≠ 19 then s.withStatus 0
  else if signal = 0 || signal = 17 || signal = 18 || signal = 23 || signal = 28 then s.withStatus 0
  else if signal = 19 || signal = 20 || signal = 21 || signal = 22 then s.wait s.limitMillis
  else { s with ending := some (.killed signal) }

def signal? (text : String) : Option Nat :=
  match text.toNat? with
  | some n => some n
  | none => ExitStatus.signalNumber? text

def runKill (s : State) (sinks : Sinks) (line : Nat) (arguments : List String) : State :=
  let (name, targets) : String × List String :=
    match arguments with
    | "-s" :: name :: rest => (name, rest)
    | first :: rest =>
        match first.toList with
        | '-' :: name => (String.ofList name, rest)
        | _ => ("TERM", arguments)
    | [] => ("TERM", [])
  match signal? name, targets with
  | some signal, [target] =>
      if target = s.parameter "$" then s.receive signal
      else s.complain sinks line "kill: No such process" 1
  | _, _ => s.complain sinks line "kill: Illegal argument" 2

def compareNumbers (operator : String) (a b : Int) : Option Bool :=
  match operator with
  | "-eq" => some (a = b)
  | "-ne" => some (a ≠ b)
  | "-lt" => some (a < b)
  | "-le" => some (a ≤ b)
  | "-gt" => some (b < a)
  | "-ge" => some (b ≤ a)
  | _ => none

/-- The answer of a test; `none` when it cannot be read. -/
def test? (s : State) : List String → Option Bool
  | [] => some false
  | [text] => some !text.isEmpty
  | ["!", text] => some text.isEmpty
  | ["-n", text] => some !text.isEmpty
  | ["-z", text] => some text.isEmpty
  | ["-e", path] => some (s.tree.pathExists s.cwd path)
  | ["-f", path] => some (s.tree.pathIsFile s.cwd path)
  | ["-d", path] => some (s.tree.pathIsDirectory s.cwd path)
  | ["!", "-e", path] => some !(s.tree.pathExists s.cwd path)
  | ["!", "-f", path] => some !(s.tree.pathIsFile s.cwd path)
  | ["!", "-d", path] => some !(s.tree.pathIsDirectory s.cwd path)
  | [a, "=", b] => some (a = b)
  | [a, "!=", b] => some (a ≠ b)
  | [a, operator, b] => do compareNumbers operator (← a.toInt?) (← b.toInt?)
  | _ => none

def copyEntry (tree : FileTree) (source target : Location) : FileTree :=
  match tree.entry? source with
  | none => tree
  | some (.file content executable) => tree.insert target (.file content executable)
  | some .directory =>
      let start := if tree.isDirectory target then tree else tree.insert target .directory
      let ordered := (tree.below source).mergeSort fun a b => a.1.length ≤ b.1.length
      ordered.foldl
        (fun tree e =>
          let place := target ++ e.1.drop source.length
          if e.2.isDirectory && tree.isDirectory place then tree else tree.insert place e.2)
        start

/-- Copies a file or a directory. A target that is a directory receives the source under its name,
or what is in the source, when that is named by a point. -/
def runCopy (s : State) (sinks : Sinks) (arguments : List String) : State :=
  let options := arguments.filter fun a => a.toList.head? = some '-' && a.length > 1
  let deep := options.any fun o => o.toList.any fun c => c = 'r' || c = 'R' || c = 'a'
  let fail (message : String) : State :=
    (s.emitText sinks.errors ("cp: " ++ message ++ "\n")).withStatus 1
  match arguments.filter fun a => !options.contains a with
  | [source, target] =>
      match s.tree.lookup s.cwd source, s.tree.locate s.cwd target with
      | .ok (loc, entry), .ok place =>
          if entry.isDirectory && !deep then
            fail ("-r not specified; omitting directory '" ++ source ++ "'")
          else
            let inside := s.tree.isDirectory place
            let last := (PathText.names source).getLast?
            let place :=
              match inside, last with
              | true, some name => if name = "." then place else place ++ [name]
              | _, _ => place
            if s.tree.isDirectory place.dropLast then
              { s with tree := copyEntry s.tree loc place, status := 0 }
            else fail ("cannot create '" ++ target ++ "': No such file or directory")
      | .error _, _ => fail ("cannot stat '" ++ source ++ "': No such file or directory")
      | _, .error _ => fail ("cannot create '" ++ target ++ "': No such file or directory")
  | _ => fail "missing file operand"

def runOnPaths (s : State) (paths : List String) (change : State → String → State) : State :=
  paths.foldl change (s.withStatus 0)

def runMakeDirectory (s : State) (sinks : Sinks) (arguments : List String) : State :=
  let deep := arguments.contains "-p"
  runOnPaths s (arguments.filter (· ≠ "-p")) fun s path =>
    let there := s.tree.pathExists s.cwd path
    if deep then
      let (tree, outcome) := s.tree.makeDirectories s.cwd path
      match outcome with
      | .ok _ => { s with tree := tree }
      | .error _ => { s with tree := tree, status := 1 }
    else
      match s.tree.locate s.cwd path with
      | .ok loc =>
          if there || !s.tree.isDirectory loc.dropLast then
            (s.emitText sinks.errors
              ("mkdir: cannot create directory '" ++ path ++ "': File exists\n")).withStatus 1
          else { s with tree := s.tree.insert loc .directory }
      | .error _ =>
          (s.emitText sinks.errors
            ("mkdir: cannot create directory '" ++ path ++
              "': No such file or directory\n")).withStatus 1

def runRemove (s : State) (sinks : Sinks) (arguments : List String) : State :=
  let options := arguments.filter fun a => a.toList.head? = some '-'
  let has (letter : Char) : Bool := options.any fun o => o.toList.contains letter
  runOnPaths s (arguments.filter fun a => !options.contains a) fun s path =>
    match s.tree.lookup s.cwd path with
    | .ok (loc, entry) =>
        if entry.isDirectory && !has 'r' then
          (s.emitText sinks.errors
            ("rm: cannot remove '" ++ path ++ "': Is a directory\n")).withStatus 1
        else { s with tree := s.tree.erase loc }
    | .error _ =>
        if has 'f' then s
        else
          (s.emitText sinks.errors
            ("rm: cannot remove '" ++ path ++ "': No such file or directory\n")).withStatus 1

def runPrintFiles (s : State) (sinks : Sinks) (paths : List String) : State :=
  runOnPaths s paths fun s path =>
    match s.tree.readBytes s.cwd path with
    | .ok bytes => s.emit sinks.output bytes
    | .error _ =>
        (s.emitText sinks.errors ("cat: " ++ path ++ ": No such file or directory\n")).withStatus 1

def runTouch (s : State) (sinks : Sinks) (paths : List String) : State :=
  runOnPaths s paths fun s path =>
    if s.tree.pathExists s.cwd path then s
    else
      match s.tree.writeContent s.cwd path (.bytes ByteArray.empty) with
      | .ok tree => { s with tree := tree }
      | .error _ =>
          (s.emitText sinks.errors
            ("touch: cannot touch '" ++ path ++ "': No such file or directory\n")).withStatus 1

def runGo (s : State) (sinks : Sinks) (line : Nat) (path : String) : State :=
  match s.tree.lookup s.cwd path with
  | .ok (loc, .directory) => { s with cwd := loc, status := 0 }
  | _ => s.complain sinks line ("cd: can't cd to " ++ path) 2

def runEcho (s : State) (sinks : Sinks) (arguments : List String) : State :=
  let (ending, texts) : String × List String :=
    match arguments with
    | "-n" :: rest => ("", rest)
    | all => ("\n", all)
  let bytes := unescapeText true (String.intercalate " " texts ++ ending)
  (s.emit sinks.output ⟨bytes.toArray⟩).withStatus 0

def runSleep (s : State) (sinks : Sinks) (arguments : List String) : State :=
  match arguments.mapM millis? with
  | some (first :: rest) => s.wait (rest.foldl (· + ·) first)
  | _ => (s.emitText sinks.errors "sleep: invalid time interval\n").withStatus 1

def runTrap (s : State) (arguments : List String) : State :=
  match arguments with
  | "" :: signals => { s with ignored := signals.filterMap signal? ++ s.ignored, status := 0 }
  | "-" :: signals =>
      let back := signals.filterMap signal?
      { s with ignored := s.ignored.filter fun n => !back.contains n, status := 0 }
  | _ => s.withStatus 0

/-- Ends the script, with a code or with the last status. -/
def runExit (s : State) (sinks : Sinks) (line : Nat) (arguments : List String) : State :=
  match arguments with
  | [] => { s with ending := some (.exited s.status) }
  | text :: _ =>
      match Numeral.readNat 0x7FFFFFFF text.toList with
      | .ok code => { s with ending := some (.exited (code % 256)) }
      | .error _ =>
          { s.complain sinks line ("exit: Illegal number: " ++ text) 2 with
            ending := some (.exited 2) }

def runShift (s : State) (sinks : Sinks) (line : Nat) (arguments : List String) : State :=
  let count := (arguments.head?.bind String.toNat?).getD 1
  if count ≤ s.arguments.length then
    { s with arguments := s.arguments.drop count, status := 0 }
  else
    { s.complain sinks line "shift: can't shift that many" 2 with ending := some (.exited 2) }

/-- Runs a command that is known by its name. Every other name is that of a file that cannot be run,
or of nothing. -/
def runNamed (s : State) (sinks : Sinks) (line : Nat) (name : String) (arguments : List String) :
    State :=
  match name with
  | ":" | "true" => s.withStatus 0
  | "false" => s.withStatus 1
  | "echo" => runEcho s sinks arguments
  | "printf" =>
      match arguments with
      | [] => s.complain sinks line "printf: usage: printf format [arg ...]" 2
      | format :: rest =>
          let printed := printAll format (rest.length + 1) ⟨[], rest⟩
          (s.emit sinks.output ⟨printed.bytes.reverse.toArray⟩).withStatus 0
  | "exit" | "return" => runExit s sinks line arguments
  | "kill" => runKill s sinks line arguments
  | "sleep" => runSleep s sinks arguments
  | "trap" => runTrap s arguments
  | "cd" => runGo s sinks line (arguments.headD "")
  | "cp" => runCopy s sinks arguments
  | "mkdir" => runMakeDirectory s sinks arguments
  | "rm" => runRemove s sinks arguments
  | "cat" => runPrintFiles s sinks arguments
  | "touch" => runTouch s sinks arguments
  | "shift" => runShift s sinks line arguments
  | "unset" =>
      { s with bindings := s.bindings.filter fun v => !arguments.contains v.1, status := 0 }
  | "test" => s.withStatus (((test? s arguments).map fun b => if b then 0 else 1).getD 2)
  | "[" =>
      s.withStatus (((test? s arguments.dropLast).map fun b => if b then 0 else 1).getD 2)
  | "set" | "export" | "umask" => s.withStatus 0
  | _ =>
      if name.toList.contains '/' && s.tree.pathExists s.cwd name then
        s.complain sinks line (name ++ ": Permission denied") 126
      else s.complain sinks line (name ++ ": not found") 127

end Shell
end TileAudit
