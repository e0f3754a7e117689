import TileAudit.Bytes.Bits

/-!
# Canonical codes

A code is given by the length of each symbol's code word. Words of one length are
consecutive numbers in the order of their symbols, and shorter words come before
longer ones, so counting the words of each length is enough to read a symbol.
-/

namespace TileAudit

/-- A canonical code: how many words there are of each length, from length zero on, and the
symbols in the order of their words. -/
structure CanonicalCode where
  counts : Array Nat
  symbols : Array Nat
deriving Repr

namespace CanonicalCode

def count (code : CanonicalCode) (length : Nat) : Nat :=
  (code.counts[length]?).getD 0

def maxLength (code : CanonicalCode) : Nat :=
  code.counts.size - 1

/-- The code with the given word lengths, none of them over `longest`; a symbol of length zero
has no word. -/
def ofLengths (longest : Nat) (lengths : List Nat) : CanonicalCode :=
  let numbered := lengths.zipIdx
  let ofLength (length : Nat) : List Nat :=
    (numbered.filter fun p => p.1 = length).map Prod.snd
  { counts :=
      ((List.range (longest + 1)).map fun length =>
        if length = 0 then 0 else (ofLength length).length).toArray
    symbols := ((List.range longest).flatMap fun i => ofLength (i + 1)).toArray }

/-- How many words of the greatest length are left over by shorter and equal ones; `none`
when there are more words than fit. -/
def slack? (code : CanonicalCode) : Option Nat :=
  (List.range code.maxLength).foldl
    (fun left i =>
      match left with
      | none => none
      | some left =>
          let used := code.count (i + 1)
          if used ≤ 2 * left then some (2 * left - used) else none)
    (some 1)

def isComplete (code : CanonicalCode) : Bool :=
  code.slack? = some 0

/-- A code that is complete, or has no word, or one word of one bit. -/
def isUsable (code : CanonicalCode) : Bool :=
  code.isComplete ||
    (code.slack?.isSome && (code.symbols.size = 0 || (code.symbols.size = 1 && code.count 1 = 1)))

inductive Symbol where
  /-- A symbol, and the position after its word. -/
  | found (symbol position : Nat)
  | truncated
  /-- No word begins the bits. -/
  | unknown

/-- Reads a symbol at a bit position, when `word` has been read from words of shorter lengths;
`low` and `index` are the least word of the length before and the number of shorter words. -/
def readFrom (code : CanonicalCode) (first : Bits.First) (src : ByteArray) :
    Nat → Nat → Nat → Nat → Nat → Nat → Symbol
  | 0, _, _, _, _, _ => .unknown
  | fuel + 1, length, position, word, low, index =>
      match Bits.bit? first src position with
      | none => .truncated
      | some b =>
          let word := 2 * word + b.toNat
          let low := 2 * low
          let count := code.count length
          if low ≤ word ∧ word < low + count then
            .found ((code.symbols[index + (word - low)]?).getD 0) (position + 1)
          else
            readFrom code first src fuel (length + 1) (position + 1) word (low + count)
              (index + count)

def read (code : CanonicalCode) (first : Bits.First) (src : ByteArray) (position : Nat) : Symbol :=
  readFrom code first src code.maxLength 1 position 0 0 0

end CanonicalCode
end TileAudit
