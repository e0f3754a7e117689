/-!
# Run packing

Runs of bytes behind a signed count: a count from 0 to 127 precedes one byte more than
it says, and a count from -127 to -1 precedes one byte that is repeated. The count
-128 stands for nothing.
-/

namespace TileAudit
namespace PackBits

/-- Unpacks bytes; `none` when the input ends within a run. -/
def unpackFrom : Nat → List UInt8 → List UInt8 → Option (List UInt8)
  | 0, _, output => some output.reverse
  | _, [], output => some output.reverse
  | fuel + 1, count :: rest, output =>
      let count := count.toNat
      if count < 128 then
        if rest.length < count + 1 then none
        else unpackFrom fuel (rest.drop (count + 1)) ((rest.take (count + 1)).reverse ++ output)
      else if count = 128 then
        unpackFrom fuel rest output
      else
        match rest with
        | [] => none
        | b :: rest => unpackFrom fuel rest (List.replicate (257 - count) b ++ output)

def unpack? (bytes : List UInt8) : Option (List UInt8) :=
  unpackFrom (bytes.length + 1) bytes []

end PackBits
end TileAudit
