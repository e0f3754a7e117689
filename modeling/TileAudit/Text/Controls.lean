/-!
# Text without control sequences

A message for a reader leaves out what a terminal would take as a command: control characters
other than blanks, and sequences that an escape character begins. Text without controls
stays as it is.
-/

namespace TileAudit
namespace Text

inductive ControlSequence where
  | outside
  | escape
  /-- An escape character and characters that announce more. -/
  | announced
  /-- A sequence with parameters. -/
  | parameters
  /-- A command with a text, which a bell can end. -/
  | command
  /-- A text that only another control ends. -/
  | string
deriving DecidableEq, Repr

structure ControlState where
  /-- The character before was shown. -/
  showing : Bool
  sequence : ControlSequence
deriving DecidableEq, Repr

def isBlankControl (c : Char) : Bool :=
  c = '\t' || c = '\n' || c = '\x0c' || c = '\r'

def isShown (c : Char) : Bool :=
  (0x20 ≤ c.toNat && c.toNat ≠ 0x7F) || isBlankControl c

namespace ControlSequence

def ofEscape (c : Char) : ControlSequence :=
  if c.toNat ≤ 0x2F then announced
  else if c = '[' then parameters
  else if c = ']' then command
  else if c = 'P' || c = 'X' || c = '^' || c = '_' then string
  else outside

def showsBlanks : ControlSequence → Bool
  | escape | announced | parameters => true
  | outside | command | string => false

def next (s : ControlSequence) (c : Char) : ControlSequence :=
  if c = '\x1b' then escape
  else if c = '\x18' || c = '\x1a' then outside
  else if c = '\x07' && s = command then outside
  else if c.toNat < 0x20 || 0x7F ≤ c.toNat then s
  else
    match s with
    | escape => ofEscape c
    | announced => if 0x30 ≤ c.toNat then outside else announced
    | parameters => if 0x40 ≤ c.toNat then outside else parameters
    | outside | command | string => s

end ControlSequence

def ControlState.start : ControlState :=
  ⟨false, .outside⟩

/-- The state after a character that is shown. A character beyond ASCII ends a sequence. -/
def ControlState.shown (s : ControlState) (c : Char) : ControlState :=
  ⟨true, if 0x80 ≤ c.toNat then .outside else s.sequence⟩

/-- A character that is shown: what was shown goes on, no sequence has begun, or a blank breaks a
sequence. -/
def ControlState.shows (s : ControlState) (c : Char) : Bool :=
  if s.showing || s.sequence = .outside then isShown c
  else s.sequence.showsBlanks && isBlankControl c

def showFrom (s : ControlState) : List Char → List Char
  | [] => []
  | c :: rest =>
      if s.shows c then c :: showFrom (s.shown c) rest
      else showFrom ⟨false, s.sequence.next c⟩ rest

def withoutControls (s : String) : String :=
  String.ofList (showFrom ControlState.start s.toList)

end Text
end TileAudit
