import TileAudit.Binary64.Shortest

/-!
# Positional number text

Numbers in messages are written with the fewest digits that read back, always
positionally: no exponent, no fraction on whole numbers, `-0` for the negative
zero, and `NaN`, `inf` and `-inf` for what is not a finite number.
-/

namespace TileAudit
namespace Binary64

def digitChar (d : Nat) : Char :=
  Char.ofNat ('0'.toNat + d)

/-- The digits with a point in its place, padded with zeros where the digits end
before it or begin after it. -/
def Decimal.positional (d : Decimal) : List Char :=
  let digits := (d.digits.map digitChar).reverse.dropWhile (· = '0') |>.reverse
  if d.point ≤ 0 then
    '0' :: '.' :: List.replicate (-d.point).toNat '0' ++ digits
  else
    let whole := d.point.toNat
    let before := digits.take whole
    let after := digits.drop whole
    before ++ List.replicate (whole - before.length) '0' ++
      (if after.isEmpty then [] else '.' :: after)

def positional (x : Float) : String :=
  let negative := x.toBits ≥ 0x8000000000000000
  let sign : List Char := if negative then ['-'] else []
  if x.isNaN then
    "NaN"
  else if x.isInf then
    String.ofList (sign ++ "inf".toList)
  else
    let m := magnitude x
    if m.mantissa = 0 then String.ofList (sign ++ ['0'])
    else String.ofList (sign ++ m.shortest.positional)

end Binary64
end TileAudit
