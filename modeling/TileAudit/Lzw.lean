import TileAudit.Bytes.Bits

/-!
# Dictionary packing with growing words

Words of nine to twelve bits, most significant bit first. A word below 256 is a byte,
256 clears the dictionary, 257 ends the data, and every other word is an entry of
the dictionary. Each word after the first one since a clear adds the entry "the
previous text and the first byte of this one", which is a piece of the output, so an
entry is kept as a place and a length. Words grow one entry early.
-/

namespace TileAudit
namespace Lzw

def clearWord : Nat := 256

def endWord : Nat := 257

structure Piece where
  start : Nat
  length : Nat
deriving Repr

/-- The state of the reader: what came out, the entries since the last clear, and
the piece that the previous word stands for. -/
structure State where
  output : ByteArray
  entries : Array Piece
  previous : Option Piece

def State.cleared (output : ByteArray) : State :=
  ⟨output, #[], none⟩

def State.width (s : State) : Nat :=
  let free := 258 + s.entries.size + (if s.previous.isSome then 1 else 0)
  if free < 512 then 9
  else if free < 1024 then 10
  else if free < 2048 then 11
  else 12

def copyPiece (start : Nat) : Nat → ByteArray → ByteArray
  | 0, output => output
  | length + 1, output =>
      copyPiece (start + 1) length (output.push (Bytes.atD output start))

/-- The entries with the one that a word adds: the previous piece and the byte after it. -/
def grown (entries : Array Piece) : Option Piece → Array Piece
  | none => entries
  | some p => if 258 + entries.size < 4096 then entries.push ⟨p.start, p.length + 1⟩ else entries

def State.literal : State → UInt8 → State
  | ⟨output, entries, previous⟩, b =>
      let start := output.size
      ⟨output.push b, grown entries previous, some ⟨start, 1⟩⟩

/-- The state after a word that is an entry, which may be the one it adds itself. -/
def State.entry? : State → Nat → Option State
  | ⟨_, _, none⟩, _ => none
  | ⟨output, entries, some p⟩, index =>
      let entries := grown entries (some p)
      match entries[index]? with
      | none => none
      | some piece =>
          let start := output.size
          some ⟨copyPiece piece.start piece.length output, entries, some ⟨start, piece.length⟩⟩

inductive Ending where
  | finished
  | enough
  | truncated
  | corrupt
deriving DecidableEq, Repr

def readWords (src : ByteArray) (limit : Nat) : Nat → Nat → State → ByteArray × Ending
  | 0, _, s => (s.output, .truncated)
  | fuel + 1, position, s =>
      if s.output.size ≥ limit then (s.output, .enough)
      else
        match Bits.highNumber? src s.width position 0 with
        | none => (s.output, .truncated)
        | some word =>
            let position := position + s.width
            if word < 256 then
              readWords src limit fuel position (s.literal (UInt8.ofNat word))
            else if word = clearWord then
              readWords src limit fuel position (State.cleared s.output)
            else if word = endWord then
              (s.output, .finished)
            else
              match s.entry? (word - 258) with
              | none => (s.output, .corrupt)
              | some s => readWords src limit fuel position s

def unpack (src : ByteArray) (limit : Nat) : ByteArray × Ending :=
  readWords src limit (8 * src.size + 1) 0 (State.cleared ByteArray.empty)

/-- The number of bytes between two clears. Words stay nine bits long, since the
dictionary is cleared before it grows past them. -/
def runLength : Nat := 128

/-- The word at an index: a clear before each run of bytes, and the end. -/
def wordAt (bytes : ByteArray) (index : Nat) : Nat :=
  let start := index / (runLength + 1) * runLength
  match index % (runLength + 1) with
  | 0 => if start < bytes.size then clearWord else endWord
  | k + 1 =>
      match Bytes.at? bytes (start + k) with
      | some b => b.toNat
      | none => endWord

def wordCount (size : Nat) : Nat :=
  size + (size + runLength - 1) / runLength + 1

def pack (bytes : ByteArray) : ByteArray :=
  Bits.packHigh ((9 * wordCount bytes.size + 7) / 8) fun k =>
    (wordAt bytes (k / 9)).testBit (8 - k % 9)

end Lzw
end TileAudit
