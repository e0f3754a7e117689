/-!
# Reading UTF-8

Bytes as text. The strict reading accepts valid UTF-8 only. The lenient reading puts
U+FFFD for each longest run of bytes that begins a character but does not
finish it, and for each byte that begins none.
-/

namespace TileAudit
namespace Utf8

/-- What the bytes at a place are: a whole character, or a number of bytes
that make none. -/
inductive Piece where
  | whole (c : Char) (length : Nat)
  | broken (length : Nat)

def secondByteRange (first : Nat) : Nat × Nat :=
  if first = 0xE0 then (0xA0, 0xBF)
  else if first = 0xED then (0x80, 0x9F)
  else if first = 0xF0 then (0x90, 0xBF)
  else if first = 0xF4 then (0x80, 0x8F)
  else (0x80, 0xBF)

def announcedLength (first : Nat) : Nat :=
  if first < 0x80 then 1
  else if 0xC2 ≤ first ∧ first < 0xE0 then 2
  else if 0xE0 ≤ first ∧ first < 0xF0 then 3
  else if 0xF0 ≤ first ∧ first < 0xF5 then 4
  else 0

def pieceAt (first : UInt8) (rest : List UInt8) : Piece :=
  let lead := first.toNat
  let isTail (b : UInt8) : Bool := 0x80 ≤ b.toNat && b.toNat ≤ 0xBF
  let range := secondByteRange lead
  let isSecond (b : UInt8) : Bool := range.1 ≤ b.toNat && b.toNat ≤ range.2
  match announcedLength lead, rest with
  | 1, _ => .whole (Char.ofNat lead) 1
  | 2, b :: _ =>
      if isSecond b then .whole (Char.ofNat ((lead - 0xC0) * 64 + (b.toNat - 0x80))) 2
      else .broken 1
  | 3, b :: rest =>
      if isSecond b then
        match rest with
        | c :: _ =>
            if isTail c then
              .whole (Char.ofNat
                (((lead - 0xE0) * 64 + (b.toNat - 0x80)) * 64 + (c.toNat - 0x80))) 3
            else .broken 2
        | [] => .broken 2
      else .broken 1
  | 4, b :: rest =>
      if isSecond b then
        match rest with
        | c :: rest =>
            if isTail c then
              match rest with
              | d :: _ =>
                  if isTail d then
                    .whole (Char.ofNat
                      ((((lead - 0xF0) * 64 + (b.toNat - 0x80)) * 64 + (c.toNat - 0x80)) * 64 +
                        (d.toNat - 0x80))) 4
                  else .broken 3
              | [] => .broken 3
            else .broken 2
        | [] => .broken 2
      else .broken 1
  | _, _ => .broken 1

/-- The lenient reading of a list of bytes; `fuel` bounds the number of pieces. -/
def lenientChars : Nat → List UInt8 → List Char
  | 0, _ => []
  | _, [] => []
  | fuel + 1, first :: rest =>
      match pieceAt first rest with
      | .whole c length => c :: lenientChars fuel (rest.drop (length - 1))
      | .broken length => Char.ofNat 0xFFFD :: lenientChars fuel (rest.drop (length - 1))

def lenient (bytes : ByteArray) : String :=
  String.ofList (lenientChars bytes.size bytes.toList)

def strict? (bytes : ByteArray) : Option String :=
  String.fromUTF8? bytes

end Utf8
end TileAudit
