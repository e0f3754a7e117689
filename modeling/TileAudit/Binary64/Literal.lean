import TileAudit.Binary64.Basic
import TileAudit.Text.Numeral

/-!
# Reading a decimal number

The argument form of a number: an optional sign, digits with an optional point,
an optional exponent, or a name for infinity or NaN in any case. The value is the
nearest binary64 number.
-/

namespace TileAudit
namespace Binary64

inductive LiteralFault where
  | empty
  | malformed
deriving DecidableEq, Repr

def LiteralFault.message : LiteralFault → String
  | .empty => "cannot parse float from empty string"
  | .malformed => "invalid float literal"

def nan : Float :=
  Float.ofBits 0x7FF8000000000000

def digitsValue (digits : List Char) : Nat :=
  digits.foldl (fun value c => value * 10 + (c.toNat - '0'.toNat)) 0

/--
The binary64 number nearest to `mantissa * 10 ^ exponent`. Far outside the range of
binary64 the answer is zero or infinity whatever the digits are.
-/
def ofDecimal (mantissa : Nat) (exponent : Int) : Float :=
  if mantissa = 0 then 0.0
  else
    let magnitude : Int := exponent + (Nat.toDigits 10 mantissa).length
    if magnitude > 400 then infinity
    else if magnitude < -400 then 0.0
    else if exponent ≥ 0 then Float.ofScientific mantissa false exponent.toNat
    else Float.ofScientific mantissa true (-exponent).toNat

def readExponent? : List Char → Option Int
  | [] => some 0
  | e :: rest =>
      if e = 'e' ∨ e = 'E' then
        let (negative, digits) : Bool × List Char :=
          match rest with
          | '-' :: digits => (true, digits)
          | '+' :: digits => (false, digits)
          | digits => (false, digits)
        if digits.isEmpty || !digits.all Char.isDigit then none
        else
          let value : Int := digitsValue digits
          some (if negative then -value else value)
      else none

def readMagnitude? (s : List Char) : Option Float :=
  let lowered := s.map Char.toLower
  if lowered = "inf".toList ∨ lowered = "infinity".toList then some infinity
  else if lowered = "nan".toList then some nan
  else
    let whole := s.takeWhile Char.isDigit
    let afterWhole := s.dropWhile Char.isDigit
    let (fraction, afterFraction) : List Char × List Char :=
      match afterWhole with
      | '.' :: rest => (rest.takeWhile Char.isDigit, rest.dropWhile Char.isDigit)
      | rest => ([], rest)
    if whole.isEmpty && fraction.isEmpty then none
    else do
      let exponent ← readExponent? afterFraction
      return ofDecimal (digitsValue (whole ++ fraction)) (exponent - fraction.length)

def ofLiteral (s : String) : Except LiteralFault Float :=
  let found : Option Float :=
    match s.toList with
    | '-' :: rest => (readMagnitude? rest).map fun x => -x
    | '+' :: rest => readMagnitude? rest
    | chars => readMagnitude? chars
  if s.isEmpty then .error .empty
  else found.elim (.error .malformed) .ok

end Binary64
end TileAudit
