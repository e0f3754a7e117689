import TileAudit.Bytes.CanonicalCode
import TileAudit.Bytes.Order

/-!
# Inflating

Unpacking a sequence of blocks, each stored as it is or written with a pair of
canonical codes. Unpacking stops when the last block ends, when enough bytes are out,
or when the input ends or breaks; what came out until then is kept.
-/

namespace TileAudit
namespace Deflate

def maxWordLength : Nat := 15

inductive Ending where
  /-- The last block ended, at this bit position. -/
  | finished (position : Nat)
  /-- As many bytes as were asked for are out. -/
  | enough
  | truncated
  | corrupt
deriving DecidableEq, Repr

structure Unpacked where
  output : ByteArray
  ending : Ending

inductive Progress where
  | next (position : Nat) (output : ByteArray)
  | stop (result : Unpacked)

/-- The base values of the length symbols and the number of bits that follow each. -/
def lengthBases : Array (Nat × Nat) :=
  #[(3, 0), (4, 0), (5, 0), (6, 0), (7, 0), (8, 0), (9, 0), (10, 0), (11, 1), (13, 1), (15, 1),
    (17, 1), (19, 2), (23, 2), (27, 2), (31, 2), (35, 3), (43, 3), (51, 3), (59, 3), (67, 4),
    (83, 4), (99, 4), (115, 4), (131, 5), (163, 5), (195, 5), (227, 5), (258, 0)]

def distanceBases : Array (Nat × Nat) :=
  #[(1, 0), (2, 0), (3, 0), (4, 0), (5, 1), (7, 1), (9, 2), (13, 2), (17, 3), (25, 3), (33, 4),
    (49, 4), (65, 5), (97, 5), (129, 6), (193, 6), (257, 7), (385, 7), (513, 8), (769, 8),
    (1025, 9), (1537, 9), (2049, 10), (3073, 10), (4097, 11), (6145, 11), (8193, 12),
    (12289, 12), (16385, 13), (24577, 13)]

def lengthOrder : List Nat :=
  [16, 17, 18, 0, 8, 7, 9, 6, 10, 5, 11, 4, 12, 3, 13, 2, 14, 1, 15]

/-- Copies `count` bytes that lie `distance` before the end, one after the other. -/
def copyBack (distance : Nat) : Nat → ByteArray → ByteArray
  | 0, output => output
  | count + 1, output =>
      copyBack distance count (output.push (Bytes.atD output (output.size - distance)))

def inflateSymbols (src : ByteArray) (limit : Nat) (literals distances : CanonicalCode) :
    Nat → Nat → ByteArray → Progress
  | 0, _, output => .stop ⟨output, .corrupt⟩
  | fuel + 1, position, output =>
      if output.size ≥ limit then .stop ⟨output, .enough⟩
      else
        match literals.read .low src position with
        | .truncated => .stop ⟨output, .truncated⟩
        | .unknown => .stop ⟨output, .corrupt⟩
        | .found symbol position =>
            if symbol < 256 then
              inflateSymbols src limit literals distances fuel position
                (output.push (UInt8.ofNat symbol))
            else if symbol = 256 then
              .next position output
            else
              match lengthBases[symbol - 257]? with
              | none => .stop ⟨output, .corrupt⟩
              | some (base, extra) =>
                  match Bits.lowNumber? src extra position with
                  | none => .stop ⟨output, .truncated⟩
                  | some more =>
                      match distances.read .low src (position + extra) with
                      | .truncated => .stop ⟨output, .truncated⟩
                      | .unknown => .stop ⟨output, .corrupt⟩
                      | .found symbol position =>
                          match distanceBases[symbol]? with
                          | none => .stop ⟨output, .corrupt⟩
                          | some (distanceBase, extra) =>
                              match Bits.lowNumber? src extra position with
                              | none => .stop ⟨output, .truncated⟩
                              | some far =>
                                  let distance := distanceBase + far
                                  if distance > output.size then .stop ⟨output, .corrupt⟩
                                  else
                                    inflateSymbols src limit literals distances fuel
                                      (position + extra) (copyBack distance (base + more) output)

def inflateStored (src : ByteArray) (position : Nat) (output : ByteArray) : Progress :=
  let start := (position + 7) / 8
  match Bytes.number? .little src start 2, Bytes.number? .little src (start + 2) 2 with
  | some length, some complement =>
      if length + complement = 0xFFFF then
        if start + 4 + length ≤ src.size then
          .next (8 * (start + 4 + length)) (output ++ src.extract (start + 4) (start + 4 + length))
        else
          .stop ⟨output ++ src.extract (start + 4) src.size, .truncated⟩
      else
        .stop ⟨output, .corrupt⟩
  | _, _ => .stop ⟨output, .truncated⟩

/-- The literal and length code of blocks that bring no code of their own. -/
def fixedLiterals : CanonicalCode :=
  CanonicalCode.ofLengths maxWordLength
    (List.replicate 144 8 ++ List.replicate 112 9 ++ List.replicate 24 7 ++ List.replicate 8 8)

def fixedDistances : CanonicalCode :=
  CanonicalCode.ofLengths maxWordLength (List.replicate 30 5)

inductive Codes where
  | found (literals distances : CanonicalCode) (position : Nat)
  | truncated
  | corrupt

inductive Lengths where
  | found (lengths : List Nat) (position : Nat)
  | truncated
  | corrupt

def readLengths (code : CanonicalCode) (src : ByteArray) (count : Nat) :
    Nat → Nat → List Nat → Lengths
  | 0, _, _ => .corrupt
  | fuel + 1, position, lengths =>
      if lengths.length = count then .found lengths.reverse position
      else if lengths.length > count then .corrupt
      else
        let repeated (value extra base position : Nat) : Lengths :=
          match Bits.lowNumber? src extra position with
          | none => .truncated
          | some more =>
              readLengths code src count fuel (position + extra)
                (List.replicate (base + more) value ++ lengths)
        match code.read .low src position with
        | .truncated => .truncated
        | .unknown => .corrupt
        | .found symbol position =>
            if symbol < 16 then readLengths code src count fuel position (symbol :: lengths)
            else if symbol = 16 then
              match lengths with
              | [] => .corrupt
              | last :: _ => repeated last 2 3 position
            else if symbol = 17 then repeated 0 3 3 position
            else repeated 0 7 11 position

def readCodes (src : ByteArray) (position : Nat) : Codes :=
  match Bits.lowNumber? src 5 position, Bits.lowNumber? src 5 (position + 5),
      Bits.lowNumber? src 4 (position + 10) with
  | some literalCount, some distanceCount, some lengthCount =>
      let literalCount := literalCount + 257
      let distanceCount := distanceCount + 1
      let lengthCount := lengthCount + 4
      if literalCount > 286 ∨ distanceCount > 30 then .corrupt
      else
        let widths := (List.range lengthCount).mapM fun i =>
          Bits.lowNumber? src 3 (position + 14 + 3 * i)
        match widths with
        | none => .truncated
        | some widths =>
            let placed := lengthOrder.zip widths
            let code := CanonicalCode.ofLengths maxWordLength
              ((List.range 19).map fun symbol => (placed.lookup symbol).getD 0)
            if !code.isUsable then .corrupt
            else
              match readLengths code src (literalCount + distanceCount) 400
                  (position + 14 + 3 * lengthCount) [] with
              | .truncated => .truncated
              | .corrupt => .corrupt
              | .found lengths position =>
                  let literals := CanonicalCode.ofLengths maxWordLength (lengths.take literalCount)
                  let distances := CanonicalCode.ofLengths maxWordLength (lengths.drop literalCount)
                  if literals.isUsable && distances.isUsable &&
                      (lengths[256]?).getD 0 ≠ 0 then
                    .found literals distances position
                  else
                    .corrupt
  | _, _, _ => .truncated

/-- Unpacks blocks until the last one. Every block takes at least one bit, so the number of
bits bounds the number of blocks. -/
def inflateBlocks (src : ByteArray) (limit : Nat) : Nat → Nat → ByteArray → Unpacked
  | 0, _, output => ⟨output, .corrupt⟩
  | fuel + 1, position, output =>
      if output.size ≥ limit then ⟨output, .enough⟩
      else
        match Bits.lowNumber? src 1 position, Bits.lowNumber? src 2 (position + 1) with
        | some last, some kind =>
            let position := position + 3
            let progress : Progress :=
              if kind = 0 then inflateStored src position output
              else if kind = 1 then
                inflateSymbols src limit fixedLiterals fixedDistances (8 * src.size + 1) position
                  output
              else if kind = 2 then
                match readCodes src position with
                | .truncated => .stop ⟨output, .truncated⟩
                | .corrupt => .stop ⟨output, .corrupt⟩
                | .found literals distances position =>
                    inflateSymbols src limit literals distances (8 * src.size + 1) position output
              else .stop ⟨output, .corrupt⟩
            match progress with
            | .stop result => result
            | .next position output =>
                if last = 1 then ⟨output, .finished position⟩
                else inflateBlocks src limit fuel position output
        | _, _ => ⟨output, .truncated⟩

/-- Unpacks from a byte position on, until `limit` bytes are out. -/
def inflate (src : ByteArray) (start limit : Nat) : Unpacked :=
  inflateBlocks src limit (8 * src.size + 1) (8 * start) ByteArray.empty

end Deflate
end TileAudit
