/-!
# Shell scripts

The small part of the shell's command language that seeding scripts are written in: simple commands
with redirections, lists, conditions, loops and case distinctions.
-/

namespace TileAudit
namespace Shell

/-- A part of a word: text, or the value of a parameter. A quoted part is never split. -/
inductive Part where
  | text (value : String) (quoted : Bool)
  | parameter (name : String) (quoted : Bool)
deriving DecidableEq, Repr

abbrev Word := List Part

/-- What a redirection does with its stream. -/
inductive Direction where
  | write
  | append
  /-- Joins another stream. -/
  | duplicate
  /-- Reads a file; nothing here reads its input. -/
  | input
deriving DecidableEq, Repr

structure Redirection where
  stream : Nat
  direction : Direction
  target : Word
deriving DecidableEq, Repr

inductive Command where
  | skip
  /-- A simple command, with the number of the line it stands on. -/
  | simple (line : Nat) (words : List Word) (redirections : List Redirection)
  | sequence (first second : Command)
  | andThen (first second : Command)
  | orElse (first second : Command)
  | negate (body : Command)
  | group (body : Command)
  | subshell (body : Command)
  /-- Runs the body with some streams sent elsewhere. -/
  | redirected (line : Nat) (body : Command) (redirections : List Redirection)
  | branch (condition yes no : Command)
  /-- Repeats the body while the condition gives the wanted answer. -/
  | loop (wanted : Bool) (condition body : Command)
  /-- Runs the body for each word; without words, for each argument. -/
  | forWords (name : String) (words : Option (List Word)) (body : Command)
  /-- Runs the body for each of some texts. -/
  | forTexts (name : String) (texts : List String) (body : Command)
  /-- Runs the first arm with a pattern that fits the word. -/
  | choose (subject : Word) (arms : Command)
  /-- An arm of a case distinction, and the arms after it. -/
  | arm (patterns : List Word) (body others : Command)
deriving Repr

inductive Token where
  | word (line : Nat) (parts : Word)
  | operator (text : String)
  /-- The number of a stream, right before a redirection. -/
  | stream (number : Nat)
deriving DecidableEq, Repr

end Shell
end TileAudit
