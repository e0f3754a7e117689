import TileAudit.Command.Arguments

/-!
# Scanning the command line

Words are taken one by one. A word that begins with a hyphen names an option; its value is the rest
of the word or the next word. The values of an argument are read when the next known argument begins
or the words end, so an unknown argument is told before a bad value right before it.
-/

namespace TileAudit
namespace CommandLine

inductive UsageFault where
  | invalidValue (value label : String) (reason : Option String)
  /-- Help or the version is asked for. -/
  | wantsHelp
  | wantsVersion
  /-- Any other fault: an unknown, repeated or missing argument, or a missing value. -/
  | misuse
deriving DecidableEq, Repr

abbrev Matches := List (ArgumentId × List Value)

structure Taker where
  id : ArgumentId
  label : String
  read : Reader
  several : Bool
  isOption : Bool

def OptionSpec.taker (o : OptionSpec) : Taker :=
  ⟨o.id, o.label, o.read, o.several, true⟩

def PositionalSpec.taker (p : PositionalSpec) : Taker :=
  ⟨p.id, p.label, p.read, p.several, false⟩

/-- What has been scanned: values that have been read, and an argument whose values are still to be
read. -/
structure Scanned where
  found : Matches
  pending : Option (Taker × List String)
  /-- The option that waits for the next word. -/
  waiting : Option OptionSpec
  /-- All further words are values. -/
  trailing : Bool

def Scanned.start : Scanned :=
  ⟨[], none, none, false⟩

def readValue (taker : Taker) (raw : String) : Except UsageFault Value :=
  match taker.read raw with
  | .ok value => .ok value
  | .error .missing => .error .misuse
  | .error .unlisted => .error (.invalidValue raw taker.label none)
  | .error (.malformed reason) => .error (.invalidValue raw taker.label (some reason))

def splitValues (taker : Taker) (raw : List String) : List String :=
  if taker.isOption && taker.several then
    raw.flatMap fun text => (TileAddress.splitOnChar ',' text.toList).map String.ofList
  else raw

/-- Reads the values of an argument. An option that is not repeatable is refused the second time. -/
def settle (found : Matches) (taker : Taker) (raw : List String) : Except UsageFault Matches :=
  if raw.isEmpty then .error .misuse
  else if !taker.several && (found.lookup taker.id).isSome then .error .misuse
  else do
    let values ← (splitValues taker raw).mapM (readValue taker)
    return found ++ [(taker.id, values)]

def Scanned.flush (s : Scanned) : Except UsageFault Scanned :=
  match s.pending with
  | none => .ok s
  | some (taker, raw) => do
      let found ← settle s.found taker raw
      return { s with found := found, pending := none, waiting := none }

def Scanned.beginOption (s : Scanned) (o : OptionSpec) (attached : Option String) :
    Except UsageFault Scanned := do
  let s ← s.flush
  match attached with
  | some value =>
      let found ← settle s.found o.taker [value]
      return { s with found := found, pending := none, waiting := none }
  | none => return { s with pending := some (o.taker, []), waiting := some o }

def Scanned.giveValue (s : Scanned) (o : OptionSpec) (word : String) : Scanned :=
  { s with pending := some (o.taker, [word]), waiting := none }

def Scanned.takePositional (s : Scanned) (spec : CommandSpec) (word : String) :
    Except UsageFault Scanned :=
  match spec.positional with
  | none => .error .misuse
  | some p =>
      match s.pending with
      | some (taker, raw) =>
          if taker.id = p.id then
            if p.several then .ok { s with pending := some (taker, raw ++ [word]) }
            else .error .misuse
          else if !p.several && (s.found.lookup p.id).isSome then .error .misuse
          else do
            let s ← s.flush
            return { s with pending := some (p.taker, [word]), waiting := none }
      | none =>
          if !p.several && (s.found.lookup p.id).isSome then .error .misuse
          else .ok { s with pending := some (p.taker, [word]), waiting := none }

/-- A word that begins with two hyphens: the name and the value attached to it. -/
def longParts (chars : List Char) : String × Option String :=
  let name := chars.takeWhile (· ≠ '=')
  match chars.dropWhile (· ≠ '=') with
  | _ :: value => (String.ofList name, some (String.ofList value))
  | [] => (String.ofList name, none)

def shortValue (chars : List Char) : Option String :=
  match chars with
  | [] => none
  | '=' :: value => some (String.ofList value)
  | value => some (String.ofList value)

def Scanned.takeOption (s : Scanned) (spec : CommandSpec) (isGlobal : Bool) (word : List Char) :
    Except UsageFault Scanned :=
  match word with
  | '-' :: '-' :: rest =>
      let (name, value) := longParts rest
      match spec.options.find? fun o => o.long = name with
      | some o => s.beginOption o value
      | none =>
          if name = "help" && value.isNone then .error .wantsHelp
          else if name = "version" && value.isNone && isGlobal then .error .wantsVersion
          else .error .misuse
  | '-' :: c :: rest =>
      match spec.options.find? fun o => o.short = some c with
      | some o => s.beginOption o (shortValue rest)
      | none =>
          if c = 'h' then .error .wantsHelp
          else if c = 'V' && isGlobal then .error .wantsVersion
          else .error .misuse
  | _ => .error .misuse

/-- A word that names an option: it begins with a hyphen and has more characters. -/
def looksLikeOption (word : String) : Bool :=
  match word.toList with
  | '-' :: _ :: _ => true
  | _ => false

def Scanned.take (s : Scanned) (spec : CommandSpec) (isGlobal : Bool) (word : String) :
    Except UsageFault Scanned :=
  let hyphens := (s.waiting.map OptionSpec.hyphenValues).getD false
  if !s.trailing && word = "--" && !hyphens then
    .ok { s with trailing := true, waiting := none }
  else if !s.trailing && looksLikeOption word && !hyphens then
    s.takeOption spec isGlobal word.toList
  else
    match s.waiting with
    | some o => .ok (s.giveValue o word)
    | none => s.takePositional spec word

def scanFrom (spec : CommandSpec) : List String → Scanned → Except UsageFault Scanned
  | [], s => s.flush
  | word :: rest, s => do
      let s ← s.take spec false word
      scanFrom spec rest s

def hasRequired (spec : CommandSpec) (found : Matches) : Bool :=
  (spec.options.all fun o => !o.required || (found.lookup o.id).isSome) &&
    match spec.positional with
    | some p => !p.required || (found.lookup p.id).isSome
    | none => true

def scan (spec : CommandSpec) (words : List String) : Except UsageFault Matches := do
  let s ← scanFrom spec words Scanned.start
  if hasRequired spec s.found then .ok s.found else .error .misuse

/-- What asking for help comes to: help can be asked for in general, and for one command. -/
def helpFault (words : List String) : UsageFault :=
  match words with
  | [] => .wantsHelp
  | [word] =>
      if word = "help" || (CommandName.ofWord? word).isSome then .wantsHelp else .misuse
  | _ => .misuse

/-- Scans the words before a command; gives the command and the words after it. -/
def scanGlobal : List String → Scanned → Except UsageFault (Matches × CommandName × List String)
  | [], _ => .error .misuse
  | word :: rest, s =>
      match (if s.waiting.isSome || s.trailing then none else CommandName.ofWord? word) with
      | some name => do
          let s ← s.flush
          return (s.found, name, rest)
      | none =>
          if word = "help" && s.waiting.isNone && !s.trailing then .error (helpFault rest)
          else do
            let s ← s.take globalSpec true word
            scanGlobal rest s

end CommandLine
end TileAudit
