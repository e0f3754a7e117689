import TileAudit.Proofs.Binary64.Operations

/-!
# Values of binary64 numbers

Finite numbers as rational numbers. Where the exact result of an operation is a number of
binary64 the operation gives it, and a quotient stays between the numbers of binary64 that
the exact one is between.
-/

namespace TileAudit
namespace Binary64

open Float.Model Float.Model.UnpackedFloat

/-!
## Finite numbers

A finite number stands for a rational number, and a result that is one of these numbers is not
changed by rounding.
-/

/-- A number is finite and stands for a rational number. -/
structure HasValue (x : Float) (q : ℚ) : Prop where
  finite : x.toModel.unpack.isFinite = true
  value_eq : value x.toModel.unpack = q

/-- A rational number that a finite number stands for. -/
def IsRepresentable (q : ℚ) : Prop :=
  ∃ (m : Nat) (e : ℤ), m < 2 ^ 53 ∧ -1074 ≤ e ∧ e ≤ 971 ∧ |q| = m * 2 ^ e

theorem IsRepresentable.onGrid {q : ℚ} (h : IsRepresentable q) : OnGrid q := by
  rcases h with ⟨m, e, hm, hleast, _, hq⟩
  exact ⟨m, e, hm, hleast, hq⟩

theorem IsRepresentable.neg {q : ℚ} (h : IsRepresentable q) : IsRepresentable (-q) := by
  rcases h with ⟨m, e, hm, hleast, hmost, hq⟩
  exact ⟨m, e, hm, hleast, hmost, by rw [abs_neg, hq]⟩

theorem IsRepresentable.lt {q : ℚ} (h : IsRepresentable q) : |q| < 2 ^ 1024 := by
  rcases h with ⟨m, e, hm, _, hmost, hq⟩
  have hcast : (m : ℚ) < 2 ^ 53 := by exact_mod_cast hm
  have hpower : (2 : ℚ) ^ e ≤ 2 ^ (971 : ℤ) := zpow_le_zpow_right₀ (by norm_num) hmost
  calc
    |q| = m * 2 ^ e := hq
    _ < 2 ^ 53 * 2 ^ e := mul_lt_mul_of_pos_right hcast (by positivity)
    _ ≤ 2 ^ 53 * 2 ^ (971 : ℤ) := mul_le_mul_of_nonneg_left hpower (by positivity)
    _ = 2 ^ 1024 := by
      rw [← zpow_natCast, ← zpow_natCast, ← zpow_add₀ (by norm_num)]
      rfl

theorem isReduced_unpack {x : Float} (h : x.toModel.unpack.isFinite = true) :
    IsReduced x.toModel.unpack := by
  have hcanonical : IsCanonical x.toModel.unpack := isCanonical_unpack _
  cases hunpack : x.toModel.unpack with
  | notANumber =>
      rw [hunpack] at h
      cases h
  | infinity s =>
      rw [hunpack] at h
      cases h
  | zero s => trivial
  | finite s m e hm =>
      rw [hunpack] at hcanonical
      exact ⟨hcanonical.small, hcanonical.least, hcanonical.full⟩

theorem HasValue.isReduced {x : Float} {q : ℚ} (h : HasValue x q) :
    IsReduced x.toModel.unpack :=
  isReduced_unpack h.finite

theorem HasValue.zero_or_finite {x : Float} {q : ℚ} (h : HasValue x q) :
    (∃ s, x.toModel.unpack = .zero s ∧ q = 0) ∨
      ∃ s m e hm, x.toModel.unpack = .finite s m e hm ∧ value (.finite s m e hm) = q := by
  have hreduced := h.isReduced
  have hvalue := h.value_eq
  cases hunpack : x.toModel.unpack with
  | notANumber =>
      rw [hunpack] at hreduced
      exact hreduced.elim
  | infinity s =>
      rw [hunpack] at hreduced
      exact hreduced.elim
  | zero s =>
      rw [hunpack] at hvalue
      exact Or.inl ⟨s, rfl, hvalue.symm⟩
  | finite s m e hm =>
      rw [hunpack] at hvalue
      exact Or.inr ⟨s, m, e, hm, rfl, hvalue⟩

theorem abs_value_finite (s : Sign) {m : Nat} {e : ℤ} (hm : 0 < m) :
    |value (.finite s m e hm)| = m * 2 ^ e := by
  show |signFactor s * (m * 2 ^ e)| = _
  have hnonneg : (0 : ℚ) ≤ m * 2 ^ e := by positivity
  cases s with
  | negative => rw [signFactor, neg_one_mul, abs_neg, abs_of_nonneg hnonneg]
  | positive => rw [signFactor, one_mul, abs_of_nonneg hnonneg]

theorem HasValue.isRepresentable {x : Float} {q : ℚ} (h : HasValue x q) : IsRepresentable q := by
  have hcanonical : IsCanonical x.toModel.unpack := isCanonical_unpack _
  rcases h.zero_or_finite with ⟨s, _, hzero⟩ | ⟨s, m, e, hm, hunpack, hvalue⟩
  · rw [hzero]
    exact ⟨0, 0, by norm_num, by norm_num, by norm_num, by simp⟩
  · rw [hunpack] at hcanonical
    refine ⟨m, e, hcanonical.small, hcanonical.least, hcanonical.most, ?_⟩
    rw [← hvalue]
    exact abs_value_finite s hm

theorem hasValue_of_unpack {x : Float} {s : Sign} {m : Nat} {e : ℤ} {hm : 0 < m}
    (h : x.toModel.unpack = .finite s m e hm) : HasValue x (signFactor s * (m * 2 ^ e)) := by
  refine ⟨?_, ?_⟩
  · rw [h]
    rfl
  · rw [h]
    rfl

theorem hasValue_pack {u : UnpackedFloat} (hu : IsReduced u) (hsmall : |value u| < 2 ^ 1024) :
    HasValue (.ofModel (.pack u)) (value u) := by
  have hcanonical : IsCanonical u := by
    cases u with
    | notANumber => exact hu.elim
    | infinity s => exact hu.elim
    | zero s => trivial
    | finite s m e hm =>
        refine ⟨hu.1, hu.2.1, ?_, hu.2.2⟩
        rcases hu.2.2 with hfull | hleast
        · rw [abs_value_finite] at hsmall
          by_contra hlarge
          have hcast : (2 : ℚ) ^ 52 ≤ m := by exact_mod_cast hfull
          have hpower : (2 : ℚ) ^ (972 : ℤ) ≤ 2 ^ e :=
            zpow_le_zpow_right₀ (by norm_num) (by omega)
          have hmany : (2 : ℚ) ^ 1024 ≤ m * 2 ^ e := by
            calc
              (2 : ℚ) ^ 1024 = 2 ^ 52 * 2 ^ (972 : ℤ) := by
                rw [← zpow_natCast, ← zpow_natCast, ← zpow_add₀ (by norm_num)]
                rfl
              _ ≤ (m : ℚ) * 2 ^ e := by gcongr
          exact absurd hsmall (not_lt.mpr hmany)
        · omega
  have hunpack : (Float.Model.pack u).unpack = u := unpack_pack hcanonical
  refine ⟨?_, ?_⟩
  · show (Float.Model.pack u).unpack.isFinite = true
    rw [hunpack]
    cases u with
    | notANumber => exact hu.elim
    | infinity s => exact hu.elim
    | zero s => rfl
    | finite s m e hm => rfl
  · show value (Float.Model.pack u).unpack = value u
    rw [hunpack]

section

variable {u : UnpackedFloat} {r lo hi : ℚ}

/-- A rounded result stays between the numbers of binary64 that the exact one is between. -/
theorem hasValue_rounded_between (hu : IsReduced u) (hnearest : IsNearest r (value u))
    (hlo : IsRepresentable lo) (hhi : IsRepresentable hi) (hlow : lo ≤ r) (hhigh : r ≤ hi) :
    ∃ q, HasValue (.ofModel (.pack u)) q ∧ lo ≤ q ∧ q ≤ hi := by
  have hge := hnearest.ge hlo.onGrid hlow
  have hle := hnearest.le hhi.onGrid hhigh
  refine ⟨value u, hasValue_pack hu ?_, hge, hle⟩
  rw [abs_lt]
  have hlo' := (abs_lt.mp hlo.lt).1
  have hhi' := (abs_lt.mp hhi.lt).2
  exact ⟨lt_of_lt_of_le hlo' hge, lt_of_le_of_lt hle hhi'⟩

theorem hasValue_rounded (hu : IsReduced u) (hnearest : IsNearest r (value u))
    (hr : IsRepresentable r) : HasValue (.ofModel (.pack u)) r := by
  rcases hasValue_rounded_between hu hnearest hr hr le_rfl le_rfl with ⟨q, hvalue, hlow, hhigh⟩
  have heq := le_antisymm hhigh hlow
  rw [heq] at hvalue
  exact hvalue

end

section

variable {x y : Float} {a b lo hi : ℚ}

theorem HasValue.add (hx : HasValue x a) (hy : HasValue y b) (hr : IsRepresentable (a + b)) :
    HasValue (x + y) (a + b) := by
  have hspec := add_spec hx.isReduced hy.isReduced
  rw [hx.value_eq, hy.value_eq] at hspec
  exact hasValue_rounded hspec.1 hspec.2 hr

theorem HasValue.sub (hx : HasValue x a) (hy : HasValue y b) (hr : IsRepresentable (a - b)) :
    HasValue (x - y) (a - b) := by
  have hspec := sub_spec hx.isReduced hy.isReduced
  rw [hx.value_eq, hy.value_eq] at hspec
  exact hasValue_rounded hspec.1 hspec.2 hr

theorem HasValue.mul (hx : HasValue x a) (hy : HasValue y b) (hr : IsRepresentable (a * b)) :
    HasValue (x * y) (a * b) := by
  have hspec := mul_spec hx.isReduced hy.isReduced
  rw [hx.value_eq, hy.value_eq] at hspec
  exact hasValue_rounded hspec.1 hspec.2 hr

theorem HasValue.neg (hx : HasValue x a) : HasValue (-x) (-a) := by
  have hvalue : value x.toModel.unpack.neg = -a := by
    rw [value_neg, hx.value_eq]
  have hsmall : |value x.toModel.unpack.neg| < 2 ^ 1024 := by
    rw [hvalue, abs_neg]
    exact hx.isRepresentable.lt
  have hpack := hasValue_pack (isReduced_neg hx.isReduced) hsmall
  rw [hvalue] at hpack
  exact hpack

theorem HasValue.div_between (hx : HasValue x a) (hy : HasValue y b) (hb : b ≠ 0)
    (hlo : IsRepresentable lo) (hhi : IsRepresentable hi) (hlow : lo ≤ a / b)
    (hhigh : a / b ≤ hi) : ∃ q, HasValue (x / y) q ∧ lo ≤ q ∧ q ≤ hi := by
  have hspec := div_spec hx.isReduced hy.isReduced (by rw [hy.value_eq]; exact hb)
  rw [hx.value_eq, hy.value_eq] at hspec
  exact hasValue_rounded_between hspec.1 hspec.2 hlo hhi hlow hhigh

theorem HasValue.div (hx : HasValue x a) (hy : HasValue y b) (hb : b ≠ 0)
    (hr : IsRepresentable (a / b)) : HasValue (x / y) (a / b) := by
  rcases hx.div_between hy hb hr hr le_rfl le_rfl with ⟨q, hvalue, hlow, hhigh⟩
  have heq := le_antisymm hhigh hlow
  rw [heq] at hvalue
  exact hvalue

end

/-!
## Natural numbers

Natural numbers of at most 53 bits and fractions whose denominator is a power of two are numbers of
binary64; numerals with one decimal are read as such.
-/

theorem isRepresentable_ofInt {n : ℤ} (h : |n| < 2 ^ 53) : IsRepresentable n := by
  refine ⟨n.natAbs, 0, ?_, by norm_num, by norm_num, ?_⟩
  · rw [Int.abs_eq_natAbs] at h
    omega
  · rw [zpow_zero, mul_one, Nat.cast_natAbs, Int.cast_abs]

theorem isRepresentable_ofNat {n : Nat} (h : n < 2 ^ 53) : IsRepresentable n := by
  have hint := isRepresentable_ofInt (n := n) (by rw [abs_of_nonneg (by omega)]; exact_mod_cast h)
  exact_mod_cast hint

theorem isRepresentable_dyadic {n : ℤ} {k : Nat} (hn : |n| < 2 ^ 53) (hk : k ≤ 1074) :
    IsRepresentable (n / 2 ^ k) := by
  refine ⟨n.natAbs, -k, ?_, by omega, by omega, ?_⟩
  · rw [Int.abs_eq_natAbs] at hn
    omega
  · rw [abs_div, abs_of_pos (by positivity : (0 : ℚ) < 2 ^ k), Nat.cast_natAbs, Int.cast_abs,
      zpow_neg, zpow_natCast, div_eq_mul_inv]

theorem hasValue_zero : HasValue 0.0 0 :=
  ⟨rfl, rfl⟩

theorem hasValue_toFloat {n : UInt64} (h : n.toNat < 2 ^ 53) :
    HasValue n.toFloat n.toNat := by
  have hspec := normalize_spec (n.toNat : ℤ) 0 .positive
  rw [zpow_zero, mul_one, Int.cast_natCast] at hspec
  exact hasValue_rounded hspec.1 hspec.2 (isRepresentable_ofNat h)

theorem hasValue_ofNat {n : Nat} (h : n < 2 ^ 53) : HasValue (Float.ofNat n) n := by
  have hword : n.toUInt64.toNat = n := by
    rw [UInt64.toNat_ofNat']
    omega
  have hproduct : Float.ofNat n = n.toUInt64.toFloat * UInt64.toFloat 1 := by
    show Float.ofScientific n false 0 = _
    unfold Float.ofScientific
    rw [dif_pos ⟨h, by decide⟩]
    rfl
  have hn := hasValue_toFloat (n := n.toUInt64) (by rw [hword]; exact h)
  have hone := hasValue_toFloat (n := 1) (by decide)
  rw [hword] at hn
  have hmul := hn.mul hone
  have hsame : (n : ℚ) * ((1 : UInt64).toNat : ℚ) = n := by
    show (n : ℚ) * ((1 : Nat) : ℚ) = n
    rw [Nat.cast_one, mul_one]
  rw [hsame] at hmul
  rw [hproduct]
  exact hmul (isRepresentable_ofNat h)

theorem hasValue_ten : HasValue (Float.ofBits 0x4024000000000000) 10 := by
  have hunpack : (Float.ofBits 0x4024000000000000).toModel.unpack =
      .finite .positive (10 * 2 ^ 49) (-49) (by decide) := rfl
  have hvalue := hasValue_of_unpack hunpack
  norm_num [signFactor] at hvalue
  exact hvalue

theorem hasValue_decimal {m : Nat} (hm : m < 2 ^ 53) {q : ℚ} (hr : IsRepresentable q)
    (hq : (m : ℚ) / 10 = q) : HasValue (OfScientific.ofScientific m true 1) q := by
  have hword : m.toUInt64.toNat = m := by
    rw [UInt64.toNat_ofNat']
    omega
  have hquotient : (OfScientific.ofScientific m true 1 : Float) =
      m.toUInt64.toFloat / Float.ofBits 0x4024000000000000 := by
    show Float.ofScientific m true 1 = _
    unfold Float.ofScientific
    rw [dif_pos ⟨hm, by decide⟩]
    rfl
  have hfloat := hasValue_toFloat (n := m.toUInt64) (by rw [hword]; exact hm)
  rw [hword] at hfloat
  have hdiv := hfloat.div hasValue_ten (by norm_num)
  rw [hq] at hdiv
  rw [hquotient]
  exact hdiv hr

theorem hasValue_half : HasValue 0.5 (1 / 2) :=
  hasValue_decimal (m := 5) (by norm_num)
    (isRepresentable_dyadic (n := 1) (k := 1) (by norm_num) (by norm_num)) (by norm_num)

end Binary64
end TileAudit
