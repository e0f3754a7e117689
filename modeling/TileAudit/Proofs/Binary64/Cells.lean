import TileAudit.Binary64.Basic
import TileAudit.Proofs.Binary64.Values

/-!
# Comparison, truncation and cells

Finite numbers compare as the rational numbers they stand for, and a number that is not
negative is truncated to its floor. So the cell of a finite coordinate is its floor.
-/

namespace TileAudit
namespace Binary64

open Float.Model Float.Model.UnpackedFloat

/-!
## Comparison

The comparison of two unpacked numbers looks at the signs, then at the exponents and last at the
significands. A lower exponent means a smaller number, because the significand with the higher one
is full.
-/

theorem magnitude_lt_of_exponent_lt {m m' : Nat} {e e' : ℤ} (hsmall : m < 2 ^ 53)
    (hleast : -1074 ≤ e) (hfull : 2 ^ 52 ≤ m' ∨ e' = -1074) (he : e < e') :
    (m * 2 ^ e : ℚ) < m' * 2 ^ e' := by
  have hm : (m : ℚ) < 2 ^ 53 := by exact_mod_cast hsmall
  have hm' : (2 : ℚ) ^ 52 ≤ m' := by exact_mod_cast hfull.resolve_right (by omega)
  have hpower : (2 : ℚ) ^ (e + 1) ≤ 2 ^ e' := zpow_le_zpow_right₀ (by norm_num) (by omega)
  calc
    (m * 2 ^ e : ℚ) < 2 ^ 53 * 2 ^ e := mul_lt_mul_of_pos_right hm (by positivity)
    _ = 2 ^ 52 * 2 ^ (e + 1) := by
      rw [zpow_add_one₀ (by norm_num)]
      ring
    _ ≤ (m' : ℚ) * 2 ^ e' := by gcongr

theorem compare_magnitudes {m m' : Nat} {e e' : ℤ}
    (h : m < 2 ^ 53 ∧ -1074 ≤ e ∧ (2 ^ 52 ≤ m ∨ e = -1074))
    (h' : m' < 2 ^ 53 ∧ -1074 ≤ e' ∧ (2 ^ 52 ≤ m' ∨ e' = -1074)) :
    (compare e e').then (compare m m') = compare (m * 2 ^ e : ℚ) (m' * 2 ^ e') := by
  rcases lt_trichotomy e e' with he | he | he
  · have hless := magnitude_lt_of_exponent_lt h.1 h.2.1 h'.2.2 he
    rw [compare_lt_iff_lt.mpr he, compare_lt_iff_lt.mpr hless]
    rfl
  · have hunit : (0 : ℚ) < 2 ^ e' := by positivity
    rw [he, compare_eq_iff_eq.mpr rfl]
    show compare m m' = _
    rcases lt_trichotomy m m' with hm | hm | hm
    · have hcast : (m : ℚ) < m' := by exact_mod_cast hm
      rw [compare_lt_iff_lt.mpr hm, compare_lt_iff_lt.mpr (mul_lt_mul_of_pos_right hcast hunit)]
    · rw [hm, compare_eq_iff_eq.mpr rfl, compare_eq_iff_eq.mpr rfl]
    · have hcast : (m' : ℚ) < m := by exact_mod_cast hm
      rw [compare_gt_iff_gt.mpr hm, compare_gt_iff_gt.mpr (mul_lt_mul_of_pos_right hcast hunit)]
  · have hless := magnitude_lt_of_exponent_lt h'.1 h'.2.1 h.2.2 he
    rw [compare_gt_iff_gt.mpr he, compare_gt_iff_gt.mpr hless]
    rfl

theorem compare_neg_swap (a b : ℚ) : (compare a b).swap = compare (-a) (-b) := by
  rcases lt_trichotomy a b with h | h | h
  · rw [compare_lt_iff_lt.mpr h, compare_gt_iff_gt.mpr (neg_lt_neg h)]
    rfl
  · rw [h, compare_eq_iff_eq.mpr rfl, compare_eq_iff_eq.mpr rfl]
    rfl
  · rw [compare_gt_iff_gt.mpr h, compare_lt_iff_lt.mpr (neg_lt_neg h)]
    rfl

theorem compare_spec {u v : UnpackedFloat} (hu : IsReduced u) (hv : IsReduced v) :
    UnpackedFloat.compare u v = some (compare (value u) (value v)) := by
  cases u with
  | infinity s => exact hu.elim
  | notANumber => exact hu.elim
  | zero s =>
      cases v with
      | infinity s' => exact hv.elim
      | notANumber => exact hv.elim
      | zero s' =>
          show some Ordering.eq = some (compare (0 : ℚ) 0)
          rw [compare_eq_iff_eq.mpr rfl]
      | finite s' m' e' hm' =>
          have hpos : (0 : ℚ) < m' * 2 ^ e' := by positivity
          cases s' with
          | negative =>
              show some Ordering.gt = some (compare (0 : ℚ) (-1 * (m' * 2 ^ e')))
              rw [compare_gt_iff_gt.mpr (by linarith)]
          | positive =>
              show some Ordering.lt = some (compare (0 : ℚ) (1 * (m' * 2 ^ e')))
              rw [compare_lt_iff_lt.mpr (by linarith)]
  | finite s m e hm =>
      have hpos : (0 : ℚ) < m * 2 ^ e := by positivity
      cases v with
      | infinity s' => exact hv.elim
      | notANumber => exact hv.elim
      | zero s' =>
          cases s with
          | negative =>
              show some Ordering.lt = some (compare (-1 * (m * 2 ^ e) : ℚ) 0)
              rw [compare_lt_iff_lt.mpr (by linarith)]
          | positive =>
              show some Ordering.gt = some (compare (1 * (m * 2 ^ e) : ℚ) 0)
              rw [compare_gt_iff_gt.mpr (by linarith)]
      | finite s' m' e' hm' =>
          have hpos' : (0 : ℚ) < m' * 2 ^ e' := by positivity
          have hmagnitudes := compare_magnitudes hu hv
          cases s with
          | negative =>
              cases s' with
              | negative =>
                  show some ((compare e e').then (compare m m')).swap =
                    some (compare (-1 * (m * 2 ^ e) : ℚ) (-1 * (m' * 2 ^ e')))
                  rw [hmagnitudes, compare_neg_swap, neg_one_mul, neg_one_mul]
              | positive =>
                  show some Ordering.lt =
                    some (compare (-1 * (m * 2 ^ e) : ℚ) (1 * (m' * 2 ^ e')))
                  rw [compare_lt_iff_lt.mpr (by linarith)]
          | positive =>
              cases s' with
              | negative =>
                  show some Ordering.gt =
                    some (compare (1 * (m * 2 ^ e) : ℚ) (-1 * (m' * 2 ^ e')))
                  rw [compare_gt_iff_gt.mpr (by linarith)]
              | positive =>
                  show some ((compare e e').then (compare m m')) =
                    some (compare (1 * (m * 2 ^ e) : ℚ) (1 * (m' * 2 ^ e')))
                  rw [hmagnitudes, one_mul, one_mul]

section

variable {x y : Float} {a b : ℚ}

theorem HasValue.compare_eq (hx : HasValue x a) (hy : HasValue y b) :
    x.toModel.unpack.compare y.toModel.unpack = some (compare a b) := by
  have hcompare := compare_spec hx.isReduced hy.isReduced
  rw [hx.value_eq, hy.value_eq] at hcompare
  exact hcompare

theorem HasValue.le_iff (hx : HasValue x a) (hy : HasValue y b) : x ≤ y ↔ a ≤ b := by
  show decide (x.toModel ≤ y.toModel) = true ↔ a ≤ b
  rw [decide_eq_true_iff]
  show (x.toModel.unpack.compare y.toModel.unpack).any (·.isLE) = true ↔ a ≤ b
  rw [hx.compare_eq hy]
  show (compare a b).isLE = true ↔ a ≤ b
  rw [Ordering.isLE_iff_ne_gt]
  exact compare_le_iff_le

theorem HasValue.lt_iff (hx : HasValue x a) (hy : HasValue y b) : x < y ↔ a < b := by
  show decide (x.toModel < y.toModel) = true ↔ a < b
  rw [decide_eq_true_iff]
  show (x.toModel.unpack.compare y.toModel.unpack == some .lt) = true ↔ a < b
  rw [hx.compare_eq hy, beq_iff_eq, Option.some.injEq]
  exact compare_lt_iff_lt

theorem HasValue.beq_iff (hx : HasValue x a) (hy : HasValue y b) : (x == y) = true ↔ a = b := by
  show (x.toModel.unpack.compare y.toModel.unpack == some .eq) = true ↔ a = b
  rw [hx.compare_eq hy, beq_iff_eq, Option.some.injEq]
  exact compare_eq_iff_eq

theorem roundToInt_positive (m : Nat) (e : ℤ) :
    roundToInt .positive m e = ((⌊(m * 2 ^ e : ℚ)⌋₊ : Nat) : ℤ) := by
  obtain ⟨n, hn⟩ : ∃ n : Nat, (0 - (e - (e - 0).toNat)).toNat = n := ⟨_, rfl⟩
  have hround : roundToInt .positive m e =
      ((ExtendedMantissa.ofMantissaAndAccuracy (m <<< (e - 0).toNat) .exact >>> n).mantissa : ℤ) := by
    unfold roundToInt decreaseExponent shiftToExponent
    simp only [hn]
    rfl
  have htruncates := (truncates_exact (m <<< (e - 0).toNat)).shiftRight n
  have hexact : ((m <<< (e - 0).toNat : Nat) : ℚ) / 2 ^ n = m * 2 ^ e := by
    have hpower : (2 : ℚ) ^ (e - 0).toNat = 2 ^ e * 2 ^ n := by
      rw [← zpow_natCast, ← zpow_natCast, ← zpow_add₀ (by norm_num)]
      congr 1
      omega
    rw [Nat.shiftLeft_eq]
    push_cast
    rw [hpower]
    field_simp
  rw [hexact] at htruncates
  have hfloor := (Nat.floor_eq_iff (by positivity)).mpr ⟨htruncates.le, htruncates.lt⟩
  rw [hround, hfloor]

theorem HasValue.toUInt64_eq_min (hx : HasValue x a) (hlow : 0 ≤ a) :
    x.toUInt64.toNat = min ⌊a⌋₊ (UInt64.size - 1) := by
  show (UInt64.ofNatClamp (x.toModel.unpack.toInt 0 (UInt64.size - 1)).toNat).toNat = _
  have hint : x.toModel.unpack.toInt 0 (UInt64.size - 1) = (⌊a⌋₊ : ℤ) := by
    rcases hx.zero_or_finite with ⟨s, hs, hzero⟩ | ⟨s, m, e, hm, hs, hvalue⟩
    · rw [hs, hzero]
      show (0 : ℤ) = (⌊(0 : ℚ)⌋₊ : ℤ)
      rw [Nat.floor_zero]
      rfl
    · rw [hs]
      cases s with
      | positive =>
          have hpositive : (m * 2 ^ e : ℚ) = a := by
            rw [← hvalue]
            exact (one_mul _).symm
          rw [← hpositive]
          exact roundToInt_positive m e
      | negative =>
          have hpos : (0 : ℚ) < m * 2 ^ e := by positivity
          have hnegative : -1 * (m * 2 ^ e : ℚ) = a := hvalue
          linarith
  rw [hint, Int.toNat_natCast]
  rcases lt_or_ge ⌊a⌋₊ UInt64.size with hfits | hlarge
  · rw [UInt64.toNat_ofNatClamp_of_lt hfits]
    omega
  · rw [UInt64.toNat_ofNatClamp_of_le hlarge]
    omega

/-!
## Cells

The number of cells enters only through the coordinates that are below it, so the first statement
leaves open what they are.
-/

theorem HasValue.cell?_of_limit (hx : HasValue x a) {count : Nat} {limit : ℚ}
    (hlimit : x < Float.ofNat count ↔ a < limit) :
    cell? x count =
      if 0 ≤ a ∧ a < limit then some (min ⌊a⌋₊ (UInt64.size - 1)) else none := by
  have hiff : ((0.0 : Float) ≤ x ∧ x < Float.ofNat count) ↔ (0 ≤ a ∧ a < limit) := by
    rw [hasValue_zero.le_iff hx, hlimit]
  unfold Binary64.cell?
  by_cases h : 0 ≤ a ∧ a < limit
  · rw [if_pos (hiff.mpr h), if_pos h, hx.toUInt64_eq_min h.1]
  · rw [if_neg (mt hiff.mp h), if_neg h]

theorem HasValue.cell? (hx : HasValue x a) {count : Nat} (hcount : count < 2 ^ 53) :
    cell? x count = if 0 ≤ a ∧ a < count then some ⌊a⌋₊ else none := by
  rw [hx.cell?_of_limit (hx.lt_iff (hasValue_ofNat hcount))]
  by_cases h : 0 ≤ a ∧ a < count
  · have hfloor : ⌊a⌋₊ < count := (Nat.floor_lt h.1).mpr h.2
    have hfits : ⌊a⌋₊ ≤ UInt64.size - 1 := by
      show ⌊a⌋₊ ≤ 2 ^ 64 - 1
      omega
    rw [if_pos h, if_pos h, min_eq_left hfits]
  · rw [if_neg h, if_neg h]

end

end Binary64
end TileAudit
