import TileAudit.Shell.Lexer

/-!
# Reading shell scripts

Building a command from the tokens of a script.
-/

namespace TileAudit
namespace Shell

inductive Goal where
  /-- Commands up to the end of what encloses them. -/
  | list
  /-- Commands joined by conditions, after one that has been read. -/
  | after (first : Command)
  | command
  /-- What follows the condition of a branch. -/
  | branchAfter (condition : Command)
  | arms

def plain? : Token → Option String
  | .word _ [.text value false] => some value
  | _ => none

/-- The words that end a list of commands. -/
def closers : List String :=
  ["then", "do", "done", "fi", "else", "elif", "esac", String.singleton (Char.ofNat 0x7D)]

def endsList : List Token → Bool
  | [] => true
  | .operator op :: _ => op = ")" || op = ";;"
  | token :: _ => ((plain? token).map closers.contains).getD false

def isSeparator : Token → Bool
  | .operator op => op = ";" || op = "\n"
  | _ => false

def isBreak (token : Token) : Bool :=
  token = .operator "\n"

def expect? (value : String) : List Token → Option (List Token)
  | token :: rest => if plain? token = some value then some rest else none
  | [] => none

def expectOperator? (op : String) : List Token → Option (List Token)
  | token :: rest => if token = .operator op then some rest else none
  | [] => none

def direction? : String → Option (Direction × Nat)
  | ">" | ">|" => some (.write, 1)
  | ">>" => some (.append, 1)
  | ">&" => some (.duplicate, 1)
  | "<" => some (.input, 0)
  | _ => none

/-- Words and redirections of a simple command, latest first. -/
def readSimple : List Token → List Word → List Redirection →
    Option (List Word × List Redirection × List Token)
  | .word _ parts :: rest, words, redirections => readSimple rest (parts :: words) redirections
  | .stream number :: .operator op :: .word _ target :: rest, words, redirections =>
      match direction? op with
      | some (direction, _) => readSimple rest words (⟨number, direction, target⟩ :: redirections)
      | none => none
  | .operator op :: .word line target :: rest, words, redirections =>
      match direction? op with
      | some (direction, stream) =>
          readSimple rest words (⟨stream, direction, target⟩ :: redirections)
      | none => some (words, redirections, .operator op :: .word line target :: rest)
  | rest, words, redirections => some (words, redirections, rest)

def lineOf : List Token → Nat
  | .word line _ :: _ => line
  | _ :: rest => lineOf rest
  | [] => 1

def leadingWords : List Token → List Word
  | .word _ parts :: rest => parts :: leadingWords rest
  | _ => []

def readPatterns : List Token → List Word → Option (List Word × List Token)
  | .word _ parts :: .operator "|" :: rest, patterns => readPatterns rest (parts :: patterns)
  | .word _ parts :: .operator ")" :: rest, patterns => some (parts :: patterns, rest)
  | _, _ => none

def withRedirections (body : Command) (tokens : List Token) : Option (Command × List Token) :=
  match readSimple tokens [] [] with
  | some ([], [], rest) => some (body, rest)
  | some ([], redirections, rest) =>
      some (.redirected (lineOf tokens) body redirections.reverse, rest)
  | _ => none

/-- Reads a command; `fuel` bounds the depth of the reading. -/
def parse : Nat → Goal → List Token → Option (Command × List Token)
  | 0, _, _ => none
  | fuel + 1, .list, tokens => do
      let tokens := tokens.dropWhile isSeparator
      if endsList tokens then
        return (.skip, tokens)
      else
        let (first, tokens) ← parse fuel .command tokens
        let (first, tokens) ← parse fuel (.after first) tokens
        match tokens with
        | token :: rest =>
            if isSeparator token then
              let (second, rest) ← parse fuel .list rest
              return (.sequence first second, rest)
            else
              return (first, tokens)
        | [] => return (first, [])
  | fuel + 1, .after first, tokens => do
      match tokens with
      | .operator "&&" :: rest =>
          let (second, rest) ← parse fuel .command (rest.dropWhile isBreak)
          parse fuel (.after (.andThen first second)) rest
      | .operator "||" :: rest =>
          let (second, rest) ← parse fuel .command (rest.dropWhile isBreak)
          parse fuel (.after (.orElse first second)) rest
      | _ => return (first, tokens)
  | fuel + 1, .branchAfter condition, tokens => do
      let tokens ← expect? "then" tokens
      let (yes, tokens) ← parse fuel .list tokens
      match tokens with
      | [] => none
      | token :: rest =>
          match plain? token with
          | some "fi" => return (.branch condition yes .skip, rest)
          | some "else" =>
              let (no, rest) ← parse fuel .list rest
              let rest ← expect? "fi" rest
              return (.branch condition yes no, rest)
          | some "elif" =>
              let (other, rest) ← parse fuel .list rest
              let (no, rest) ← parse fuel (.branchAfter other) rest
              return (.branch condition yes no, rest)
          | _ => none
  | fuel + 1, .arms, tokens => do
      let tokens := tokens.dropWhile isBreak
      match expect? "esac" tokens with
      | some rest => return (.skip, rest)
      | none =>
          let tokens :=
            match tokens with
            | .operator "(" :: rest => rest
            | _ => tokens
          let (patterns, tokens) ← readPatterns tokens []
          let (body, tokens) ← parse fuel .list tokens
          match expectOperator? ";;" tokens with
          | some rest =>
              let (others, rest) ← parse fuel .arms rest
              return (.arm patterns.reverse body others, rest)
          | none =>
              let rest ← expect? "esac" tokens
              return (.arm patterns.reverse body .skip, rest)
  | fuel + 1, .command, tokens => do
      match tokens with
      | [] => none
      | .operator "(" :: rest =>
          let (body, rest) ← parse fuel .list rest
          let rest ← expectOperator? ")" rest
          withRedirections (.subshell body) rest
      | token :: rest =>
          match plain? token with
          | some "!" =>
              let (body, rest) ← parse fuel .command rest
              return (.negate body, rest)
          | some "if" =>
              let (condition, rest) ← parse fuel .list rest
              let (branch, rest) ← parse fuel (.branchAfter condition) rest
              withRedirections branch rest
          | some "while" =>
              let (condition, rest) ← parse fuel .list rest
              let (body, rest) ← parse fuel .list (← expect? "do" rest)
              withRedirections (.loop true condition body) (← expect? "done" rest)
          | some "until" =>
              let (condition, rest) ← parse fuel .list rest
              let (body, rest) ← parse fuel .list (← expect? "do" rest)
              withRedirections (.loop false condition body) (← expect? "done" rest)
          | some "for" =>
              match rest with
              | [] => none
              | counter :: rest =>
                  let name ← plain? counter
                  let rest := rest.dropWhile isBreak
                  let (words, rest) : Option (List Word) × List Token :=
                    match expect? "in" rest with
                    | some rest =>
                        let words := leadingWords rest
                        (some words, rest.drop words.length)
                    | none => (none, rest)
                  let (body, rest) ← parse fuel .list
                    (← expect? "do" (rest.dropWhile isSeparator))
                  withRedirections (.forWords name words body) (← expect? "done" rest)
          | some "case" =>
              match rest with
              | .word _ subject :: rest =>
                  let rest ← expect? "in" (rest.dropWhile isBreak)
                  let (arms, rest) ← parse fuel .arms rest
                  withRedirections (.choose subject arms) rest
              | _ => none
          | first =>
              if first = some (String.singleton (Char.ofNat 0x7B)) then
                let (body, rest) ← parse fuel .list rest
                let rest ← expect? (String.singleton (Char.ofNat 0x7D)) rest
                withRedirections (.group body) rest
              else
                let line := lineOf tokens
                let (words, redirections, rest) ← readSimple tokens [] []
                guard (!(words.isEmpty && redirections.isEmpty))
                return (.simple line words.reverse redirections.reverse, rest)

def ofScript? (script : String) : Option Command := do
  let tokens ← tokens? script
  let (command, rest) ← parse (4 * tokens.length + 8) .list tokens
  guard rest.isEmpty
  return command

end Shell
end TileAudit
