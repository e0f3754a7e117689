/-!
# Numerals

Decimal and hexadecimal numerals of a least width, and reading a decimal numeral
below a limit. A reader says why it refuses: nothing there, a character that is
no digit, or a value past the limit. It reads from the left, so of two faults the
leftmost is the one that is told.
-/

namespace TileAudit
namespace Numeral

/-- Characters padded on the left with zeros up to a width. -/
def padZeros (width : Nat) (s : List Char) : List Char :=
  List.replicate (width - s.length) '0' ++ s

def decimal (width n : Nat) : String :=
  String.ofList (padZeros width (Nat.toDigits 10 n))

def hexadecimal (width n : Nat) : String :=
  String.ofList (padZeros width (Nat.toDigits 16 n))

inductive Fault where
  | empty
  | badDigit
  | tooLarge
  | tooSmall
deriving DecidableEq, Repr

def Fault.message : Fault → String
  | .empty => "cannot parse integer from empty string"
  | .badDigit => "invalid digit found in string"
  | .tooLarge => "number too large to fit in target type"
  | .tooSmall => "number too small to fit in target type"

def digit? (c : Char) : Option Nat :=
  if '0' ≤ c ∧ c ≤ '9' then some (c.toNat - '0'.toNat) else none

def limit32 : Nat := 0xFFFFFFFF

def limit64 : Nat := 0xFFFFFFFFFFFFFFFF

def limitSigned64 : Nat := 0x7FFFFFFFFFFFFFFF

/-- Reads digits onto a value that may not pass `limit`. -/
def readDigits (limit : Nat) (overflow : Fault) : Nat → List Char → Except Fault Nat
  | value, [] => .ok value
  | value, c :: rest =>
      match digit? c with
      | none => .error .badDigit
      | some d =>
          if value * 10 + d ≤ limit then readDigits limit overflow (value * 10 + d) rest
          else .error overflow

def readUnsigned (limit : Nat) (overflow : Fault) : List Char → Except Fault Nat
  | [] => .error .badDigit
  | digits => readDigits limit overflow 0 digits

def readNat (limit : Nat) : List Char → Except Fault Nat
  | [] => .error .empty
  | '+' :: digits => readUnsigned limit .tooLarge digits
  | digits => readUnsigned limit .tooLarge digits

/-- Reads an integer from `-(limit + 1)` to `limit`: an optional sign and at least one digit. -/
def readInt (limit : Nat) : List Char → Except Fault Int
  | [] => .error .empty
  | '+' :: digits => (readUnsigned limit .tooLarge digits).map Int.ofNat
  | '-' :: digits => (readUnsigned (limit + 1) .tooSmall digits).map fun n => -(n : Int)
  | digits => (readUnsigned limit .tooLarge digits).map Int.ofNat

end Numeral
end TileAudit
