/-!
# The cosine transform of a block

A block of eight by eight numbers as a sum of cosine waves, and back. The waves are
scaled to whole numbers, so the transform is exact in integers up to one rounding at
its end.
-/

namespace TileAudit
namespace Jpeg

def waveScale : Int := 8192

/-- The eight waves at eight places, scaled: row `u` holds the wave of frequency `u`. -/
def waves : Array Int :=
  #[2896, 2896, 2896, 2896, 2896, 2896, 2896, 2896,
    4017, 3406, 2276, 799, -799, -2276, -3406, -4017,
    3784, 1567, -1567, -3784, -3784, -1567, 1567, 3784,
    3406, -799, -4017, -2276, 2276, 4017, 799, -3406,
    2896, -2896, -2896, 2896, 2896, -2896, -2896, 2896,
    2276, -4017, 799, 3406, -3406, -799, 4017, -2276,
    1567, -3784, 3784, -1567, -1567, 3784, -3784, 1567,
    799, -2276, 3406, -4017, 4017, -3406, 2276, -799]

def wave (frequency place : Nat) : Int :=
  (waves[8 * frequency + place]?).getD 0

/-- The nearest whole number to a quotient; a half goes up. -/
def roundDiv (n : Int) (d : Int) : Int :=
  Int.fdiv (2 * n + d) (2 * d)

def dot (f g : Nat → Int) : Int :=
  (List.range 8).foldl (fun sum i => sum + f i * g i) 0

def at8 (block : Array Int) (row col : Nat) : Int :=
  (block[8 * row + col]?).getD 0

def block8 (f : Nat → Nat → Int) : Array Int :=
  Array.ofFn fun i : Fin 64 => f (i.val / 8) (i.val % 8)

/-- The weights of the waves whose sum a block is. -/
def analyse (block : Array Int) : Array Int :=
  let rows := block8 fun row u => dot (at8 block row) (wave u)
  block8 fun v u => roundDiv (dot (fun row => at8 rows row u) (wave v)) (waveScale * waveScale)

def synthesise (weights : Array Int) : Array Int :=
  let rows := block8 fun v col => dot (at8 weights v) fun u => wave u col
  block8 fun row col =>
    roundDiv (dot (fun v => at8 rows v col) fun v => wave v row) (waveScale * waveScale)

/-- The order in which the weights of a block are stored: along the falling diagonals, from the
slow waves to the fast ones. -/
def zigzag : Array Nat :=
  #[0, 1, 8, 16, 9, 2, 3, 10, 17, 24, 32, 25, 18, 11, 4, 5, 12, 19, 26, 33, 40, 48, 41, 34, 27,
    20, 13, 6, 7, 14, 21, 28, 35, 42, 49, 56, 57, 50, 43, 36, 29, 22, 15, 23, 30, 37, 44, 51,
    58, 59, 52, 45, 38, 31, 39, 46, 53, 60, 61, 54, 47, 55, 62, 63]

end Jpeg
end TileAudit
