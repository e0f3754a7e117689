/-!
# Binary64 arithmetic beside the core operations

Powers of two, the smaller and the larger of two numbers, and the number of the
unit cell a coordinate falls in. Every function here is defined through the
transparent part of `Float`, so each can be unfolded in a proof.
-/

namespace TileAudit
namespace Binary64

def infinity : Float :=
  Float.ofBits 0x7FF0000000000000

/-- Two to a natural power: exact below 1024, infinite from there on. -/
def powerOfTwo (exponent : Nat) : Float :=
  if exponent < 1024 then Float.ofNat (Nat.pow 2 exponent) else infinity

/-- The smaller of two numbers; a NaN gives way to the other one. -/
def smaller (a b : Float) : Float :=
  if a.isNaN then b
  else if b.isNaN then a
  else if a ≤ b then a
  else b

def larger (a b : Float) : Float :=
  if a.isNaN then b
  else if b.isNaN then a
  else if b ≤ a then a
  else b

/--
The cell a coordinate falls in when the cells `[i, i + 1)` are numbered from zero
and there are `count` of them. A coordinate on a shared edge belongs to the
cell after it. Coordinates that are negative, too large, infinite or NaN fall in
no cell. Truncation is the floor here, because nothing negative gets that far.
-/
def cell? (coordinate : Float) (count : Nat) : Option Nat :=
  if 0.0 ≤ coordinate ∧ coordinate < Float.ofNat count then
    some coordinate.toUInt64.toNat
  else
    none

end Binary64
end TileAudit
