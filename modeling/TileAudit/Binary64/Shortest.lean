/-!
# Shortest decimals

The fewest decimal digits that read back as a given positive binary64 number,
found in exact natural-number arithmetic.

A finite number is `mantissa * 2 ^ exponent`. The reals that round to it form an
interval that reaches half way to each neighbour, with its ends included exactly
when the mantissa is even. For one, two, up to seventeen digits the two grid
points around the number are tested against that interval. The first grid with a
hit wins, and of two hits the nearer.
-/

namespace TileAudit
namespace Binary64

/-- The magnitude of a finite number: `mantissa * 2 ^ exponent`. -/
structure Magnitude where
  mantissa : Nat
  exponent : Int
deriving DecidableEq, Repr

def hiddenBit : Nat := 0x10000000000000

def magnitude (x : Float) : Magnitude :=
  let bits : Nat := x.toBits.toNat
  let field : Nat := bits / hiddenBit % 2048
  let fraction : Nat := bits % hiddenBit
  if field = 0 then
    ⟨fraction, -1074⟩
  else
    ⟨fraction + hiddenBit, (field : Int) - 1075⟩

/-- Decimal digits, most significant first, and a power of ten: the value is
`0.d₁d₂… * 10 ^ point`. -/
structure Decimal where
  digits : List Nat
  point : Int
deriving DecidableEq, Repr

/--
The interval of reals that round to a magnitude, and the magnitude itself, as
numerators over one denominator.
-/
structure RoundingInterval where
  low : Nat
  value : Nat
  high : Nat
  denominator : Nat
  closed : Bool

/-- The rounding interval of a positive magnitude. Below a power of two the
neighbour is only half as far away. -/
def Magnitude.interval (m : Magnitude) : RoundingInterval :=
  let lowStep := if m.mantissa = hiddenBit ∧ m.exponent > -1074 then 1 else 2
  let scale (n : Nat) : Nat := n * Nat.pow 2 m.exponent.toNat
  { low := scale (4 * m.mantissa - lowStep)
    value := scale (4 * m.mantissa)
    high := scale (4 * m.mantissa + 2)
    denominator := 4 * Nat.pow 2 (-m.exponent).toNat
    closed := m.mantissa % 2 = 0 }

def RoundingInterval.holds (i : RoundingInterval) (num den : Nat) : Bool :=
  if i.closed then
    i.low * den ≤ num * i.denominator && num * i.denominator ≤ i.high * den
  else
    i.low * den < num * i.denominator && num * i.denominator < i.high * den

/-- The least `k` with `value < 10 ^ k`, searched upward from `k`. -/
def pointFrom (i : RoundingInterval) : Nat → Int → Int
  | 0, k => k
  | fuel + 1, k =>
      if i.value * Nat.pow 10 (-k).toNat < i.denominator * Nat.pow 10 k.toNat then k
      else pointFrom i fuel (k + 1)

/--
The grid point with `count` digits that lies in the interval and is nearest to the
value, if there is one. An exact tie goes up.
-/
def gridPoint? (i : RoundingInterval) (point : Int) (count : Nat) : Option Nat :=
  let step := point - count
  let num (n : Nat) : Nat := n * Nat.pow 10 step.toNat
  let den := Nat.pow 10 (-step).toNat
  let below := i.value * den / (i.denominator * Nat.pow 10 step.toNat)
  let above := below + 1
  let belowHolds := i.holds (num below) den
  let aboveHolds := i.holds (num above) den
  let toBelow := i.value * den - num below * i.denominator
  let toAbove := num above * i.denominator - i.value * den
  if belowHolds && (!aboveHolds || toBelow < toAbove) then some below
  else if aboveHolds then some above
  else none

def decimalDigits (n : Nat) : List Nat :=
  (Nat.toDigits 10 n).map fun c => c.toNat - '0'.toNat

def shortestFrom (i : RoundingInterval) (point : Int) : Nat → Nat → Decimal
  | 0, _ => ⟨[], point⟩
  | fuel + 1, count =>
      match gridPoint? i point count with
      | some n =>
          let digits := decimalDigits n
          ⟨digits, point + digits.length - count⟩
      | none => shortestFrom i point fuel (count + 1)

def Magnitude.shortest (m : Magnitude) : Decimal :=
  let i := m.interval
  shortestFrom i (pointFrom i 640 (-324)) 17 1

end Binary64
end TileAudit
