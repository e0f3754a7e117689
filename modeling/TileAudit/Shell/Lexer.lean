import TileAudit.Shell.Syntax

/-!
# Tokens of shell scripts

Cutting a script into words and operators. Quotes keep blanks and operators in a word; a dollar sign
begins a parameter; a number sign at the front of a word begins a comment.
-/

namespace TileAudit
namespace Shell

def isDelimiter (c : Char) : Bool :=
  c = ' ' || c = '\t' || c = '\n' || c = ';' || c = '&' || c = '|' || c = '<' || c = '>' ||
    c = '(' || c = ')'

def isNameChar (c : Char) : Bool :=
  c.isAlphanum || c = '_'

def readParameter (chars : List Char) : Option (String × List Char) :=
  let opening := Char.ofNat 0x7B
  let closing := Char.ofNat 0x7D
  match chars with
  | [] => none
  | c :: rest =>
      if c = opening then
        let name := rest.takeWhile (· ≠ closing)
        match rest.dropWhile (· ≠ closing) with
        | _ :: rest => if name.isEmpty then none else some (String.ofList name, rest)
        | [] => none
      else if c.isDigit || c = '@' || c = '*' || c = '#' || c = '?' || c = '$' || c = '!' then
        some (String.singleton c, rest)
      else if isNameChar c then
        some (String.ofList (chars.takeWhile isNameChar), chars.dropWhile isNameChar)
      else none

/-- The parts inside double quotes, latest first, and what follows the closing quote. -/
def readQuoted : Nat → List Char → List Part → Option (List Part × List Char)
  | 0, _, _ => none
  | _, [], _ => none
  | fuel + 1, c :: rest, parts =>
      if c = '"' then some (parts, rest)
      else if c = '\\' then
        match rest with
        | [] => none
        | e :: rest =>
            if e = '\n' then readQuoted fuel rest parts
            else if e = '"' || e = '\\' || e = '$' || e = Char.ofNat 0x60 then
              readQuoted fuel rest (.text (String.singleton e) true :: parts)
            else
              readQuoted fuel rest (.text (String.ofList ['\\', e]) true :: parts)
      else if c = '$' then
        match readParameter rest with
        | some (name, rest) => readQuoted fuel rest (.parameter name true :: parts)
        | none => readQuoted fuel rest (.text "$" true :: parts)
      else
        let special (d : Char) : Bool := d = '"' || d = '\\' || d = '$'
        readQuoted fuel (rest.dropWhile (!special ·))
          (.text (String.ofList (c :: rest.takeWhile (!special ·))) true :: parts)

def readWord : Nat → List Char → List Part → Option (List Part × List Char)
  | 0, _, _ => none
  | _, [], parts => some (parts, [])
  | fuel + 1, c :: rest, parts =>
      if isDelimiter c then some (parts, c :: rest)
      else if c = '\'' then
        match rest.dropWhile (· ≠ '\'') with
        | [] => none
        | _ :: after =>
            readWord fuel after (.text (String.ofList (rest.takeWhile (· ≠ '\''))) true :: parts)
      else if c = '"' then
        match readQuoted fuel rest (.text "" true :: parts) with
        | none => none
        | some (parts, rest) => readWord fuel rest parts
      else if c = '\\' then
        match rest with
        | [] => some (.text "\\" true :: parts, [])
        | e :: rest =>
            if e = '\n' then readWord fuel rest parts
            else readWord fuel rest (.text (String.singleton e) true :: parts)
      else if c = '$' then
        match rest with
        | '(' :: _ => none
        | _ =>
            match readParameter rest with
            | some (name, rest) => readWord fuel rest (.parameter name false :: parts)
            | none => readWord fuel rest (.text "$" false :: parts)
      else if c = Char.ofNat 0x60 then none
      else
        let special (d : Char) : Bool :=
          isDelimiter d || d = '\'' || d = '"' || d = '\\' || d = '$' || d = Char.ofNat 0x60
        readWord fuel (rest.dropWhile (!special ·))
          (.text (String.ofList (c :: rest.takeWhile (!special ·))) false :: parts)

def longOperators : List String :=
  ["&&", "||", ";;", ">>", ">&", "<&", ">|", "<<"]

def readOperator (chars : List Char) : Option (String × List Char) :=
  match longOperators.find? fun op => op.toList.isPrefixOf chars with
  | some op => some (op, chars.drop op.length)
  | none =>
      match chars with
      | c :: rest => if isDelimiter c then some (String.singleton c, rest) else none
      | [] => none

/-- A stream number right before a redirection, and what follows it. -/
def readStream (chars : List Char) : Option (Nat × List Char) :=
  match chars with
  | d :: c :: rest =>
      if d.isDigit && (c = '<' || c = '>') then some (d.toNat - '0'.toNat, c :: rest) else none
  | _ => none

def lexFrom : Nat → Nat → List Char → List Token → Option (List Token)
  | 0, _, _, _ => none
  | _, _, [], tokens => some tokens
  | fuel + 1, line, c :: rest, tokens =>
      if c = ' ' || c = '\t' then lexFrom fuel line rest tokens
      else if c = '\\' && rest.head? = some '\n' then lexFrom fuel (line + 1) (rest.drop 1) tokens
      else if c = '#' then lexFrom fuel line (rest.dropWhile (· ≠ '\n')) tokens
      else
        match readStream (c :: rest) with
        | some (number, rest) => lexFrom fuel line rest (.stream number :: tokens)
        | none =>
            match readOperator (c :: rest) with
            | some (op, rest) =>
                lexFrom fuel (if op = "\n" then line + 1 else line) rest (.operator op :: tokens)
            | none =>
                match readWord (rest.length + 2) (c :: rest) [] with
                | none => none
                | some (parts, after) =>
                    let used := (c :: rest).take (rest.length + 1 - after.length)
                    lexFrom fuel (line + used.count '\n') after
                      (.word line parts.reverse :: tokens)

/-- The tokens of a script; `none` for a script with an open quote or an unknown construct. -/
def tokens? (script : String) : Option (List Token) :=
  let chars := script.toList
  (lexFrom (chars.length + 1) 1 chars []).map List.reverse

end Shell
end TileAudit
