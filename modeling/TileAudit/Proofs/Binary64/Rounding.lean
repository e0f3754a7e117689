import TileAudit.Proofs.Binary64.Packing

/-!
# Rounding to binary64

The number that rounding gives is one of the numbers of 53 bits that are nearest to the exact
one. The shifts keep two bits of what they drop, and these tell which neighbour is nearer.
-/

namespace TileAudit
namespace Binary64

open Float.Model Float.Model.UnpackedFloat

/-!
## Truncation

The shifts drop bits, and keep in two of them whether what was dropped is a half or more and whether
it is other than nothing and a half.
-/

/-- A significand is a number without its fraction, and two bits tell about the fraction: whether
it is a half or more, and whether it is other than nothing and a half. -/
structure Truncates (em : ExtendedMantissa) (x : ℚ) : Prop where
  le : (em.mantissa : ℚ) ≤ x
  lt : x < em.mantissa + 1
  round_iff : em.roundBit = true ↔ (em.mantissa : ℚ) + 1 / 2 ≤ x
  sticky_iff : em.stickyBit = false ↔ x = em.mantissa ∨ x = em.mantissa + 1 / 2

theorem truncates_of_lower {em : ExtendedMantissa} {x : ℚ} (hround : em.roundBit = false)
    (hle : (em.mantissa : ℚ) ≤ x) (hhalf : x < em.mantissa + 1 / 2)
    (hsticky : em.stickyBit = false ↔ x = em.mantissa) : Truncates em x := by
  refine ⟨hle, by linarith, ?_, ?_⟩
  · rw [hround]
    constructor
    · intro h
      cases h
    · intro h
      exact absurd h (not_le.mpr hhalf)
  · rw [hsticky]
    constructor
    · intro h
      exact Or.inl h
    · rintro (h | h)
      · exact h
      · exact absurd h hhalf.ne

theorem truncates_of_upper {em : ExtendedMantissa} {x : ℚ} (hround : em.roundBit = true)
    (hhalf : (em.mantissa : ℚ) + 1 / 2 ≤ x) (hlt : x < em.mantissa + 1)
    (hsticky : em.stickyBit = false ↔ x = em.mantissa + 1 / 2) : Truncates em x := by
  refine ⟨by linarith, hlt, ?_, ?_⟩
  · rw [hround]
    constructor
    · intro _
      exact hhalf
    · intro _
      rfl
  · rw [hsticky]
    constructor
    · intro h
      exact Or.inr h
    · rintro (h | h)
      · linarith
      · exact h

theorem truncates_exact (m : Nat) :
    Truncates (ExtendedMantissa.ofMantissaAndAccuracy m .exact) m := by
  apply truncates_of_lower
  · rfl
  · exact le_refl _
  · show (m : ℚ) < m + 1 / 2
    linarith
  · constructor
    · intro _
      rfl
    · intro _
      rfl

theorem Truncates.shiftRightOne {em : ExtendedMantissa} {x : ℚ} (h : Truncates em x) :
    Truncates em.shiftRightOne (x / 2) := by
  rcases em with ⟨m, roundBit, stickyBit⟩
  have hle : (m : ℚ) ≤ x := h.le
  have hlt : x < m + 1 := h.lt
  have hround := h.round_iff
  have hsticky := h.sticky_iff
  have hexact : (roundBit || stickyBit) = false ↔ x = m := by
    rw [Bool.or_eq_false_iff, ← Bool.not_eq_true, hround, hsticky]
    constructor
    · rintro ⟨hlow, hx | hx⟩
      · exact hx
      · exact absurd hx.ge hlow
    · intro hx
      exact ⟨by rw [hx]; simp, Or.inl hx⟩
  -- The bit that falls off becomes the round bit, and the bits below it are joined.
  rcases Nat.mod_two_eq_zero_or_one m with hparity | hparity
  · have hm : (m : ℚ) = 2 * (m / 2 : Nat) := by
      have hnat : m = 2 * (m / 2) := by omega
      exact_mod_cast hnat
    apply truncates_of_lower
    · show (m % 2 != 0) = false
      rw [hparity]
      rfl
    · show ((m / 2 : Nat) : ℚ) ≤ x / 2
      linarith
    · show x / 2 < ((m / 2 : Nat) : ℚ) + 1 / 2
      linarith
    · show (roundBit || stickyBit) = false ↔ x / 2 = ((m / 2 : Nat) : ℚ)
      rw [hexact]
      constructor
      · intro hx
        linarith
      · intro hx
        linarith
  · have hm : (m : ℚ) = 2 * (m / 2 : Nat) + 1 := by
      have hnat : m = 2 * (m / 2) + 1 := by omega
      exact_mod_cast hnat
    apply truncates_of_upper
    · show (m % 2 != 0) = true
      rw [hparity]
      rfl
    · show ((m / 2 : Nat) : ℚ) + 1 / 2 ≤ x / 2
      linarith
    · show x / 2 < ((m / 2 : Nat) : ℚ) + 1
      linarith
    · show (roundBit || stickyBit) = false ↔ x / 2 = ((m / 2 : Nat) : ℚ) + 1 / 2
      rw [hexact]
      constructor
      · intro hx
        linarith
      · intro hx
        linarith

theorem Truncates.shiftRight {em : ExtendedMantissa} {x : ℚ} (h : Truncates em x) (n : Nat) :
    Truncates (em >>> n) (x / 2 ^ n) := by
  show Truncates (n.repeat ExtendedMantissa.shiftRightOne em) _
  induction n with
  | zero =>
      rw [pow_zero, div_one]
      exact h
  | succ n ih =>
      rw [pow_succ, ← div_div]
      exact ih.shiftRightOne

theorem roundedMantissa_le_succ (em : ExtendedMantissa) :
    em.mantissa ≤ em.roundedMantissa ∧ em.roundedMantissa ≤ em.mantissa + 1 := by
  rcases em with ⟨m, roundBit, stickyBit⟩
  unfold ExtendedMantissa.roundedMantissa
  cases roundBit with
  | false =>
      cases stickyBit with
      | false => exact ⟨le_refl m, Nat.le_succ m⟩
      | true => exact ⟨le_refl m, Nat.le_succ m⟩
  | true =>
      cases stickyBit with
      | false =>
          show m ≤ m + m % 2 ∧ m + m % 2 ≤ m + 1
          omega
      | true => exact ⟨Nat.le_succ m, le_refl _⟩

theorem Truncates.nearest {em : ExtendedMantissa} {x : ℚ} (h : Truncates em x) (k : ℤ) :
    |(em.roundedMantissa : ℚ) - x| ≤ |(k : ℚ) - x| := by
  rcases em with ⟨m, roundBit, stickyBit⟩
  have hle : (m : ℚ) ≤ x := h.le
  have hlt : x < m + 1 := h.lt
  have hround : roundBit = true ↔ (m : ℚ) + 1 / 2 ≤ x := h.round_iff
  have hsticky : stickyBit = false ↔ x = m ∨ x = m + 1 / 2 := h.sticky_iff
  -- An integer lies at or below the significand, or at or above the next one.
  have hk : x - m ≤ |(k : ℚ) - x| ∨ m + 1 - x ≤ |(k : ℚ) - x| := by
    rcases le_or_gt k (m : ℤ) with hlow | hhigh
    · have hcast : (k : ℚ) ≤ m := by exact_mod_cast hlow
      exact Or.inl (by rw [abs_sub_comm]; exact le_trans (by linarith) (le_abs_self _))
    · have hcast : (m : ℚ) + 1 ≤ k := by exact_mod_cast hhigh
      exact Or.inr (le_trans (by linarith) (le_abs_self _))
  unfold ExtendedMantissa.roundedMantissa
  cases roundBit with
  | false =>
      have hhalf : x < m + 1 / 2 := by
        by_contra hnot
        cases hround.mpr (not_lt.mp hnot)
      have hnearest : |(m : ℚ) - x| ≤ |(k : ℚ) - x| := by
        rw [abs_sub_comm, abs_of_nonneg (by linarith)]
        rcases hk with hk | hk
        · exact hk
        · linarith
      cases stickyBit with
      | false => exact hnearest
      | true => exact hnearest
  | true =>
      have hhalf := hround.mp rfl
      have hnext : |((m + 1 : Nat) : ℚ) - x| ≤ |(k : ℚ) - x| := by
        push_cast
        rw [abs_of_nonneg (by linarith)]
        rcases hk with hk | hk
        · linarith
        · exact hk
      cases stickyBit with
      | true => exact hnext
      | false =>
          -- A tie: both neighbours are as near.
          have htie : x = m + 1 / 2 := by
            rcases hsticky.mp rfl with hx | hx
            · linarith
            · exact hx
          show |((m + m % 2 : Nat) : ℚ) - x| ≤ _
          rcases Nat.mod_two_eq_zero_or_one m with hparity | hparity
          · rw [hparity, Nat.add_zero, abs_sub_comm, abs_of_nonneg (by linarith)]
            rcases hk with hk | hk
            · exact hk
            · linarith
          · rw [hparity]
            exact hnext

/-!
## Numbers of 53 bits

A number of 53 bits has a significand of that length and an exponent that is not too low; there is
no largest one. Rounding is judged against these numbers, before it is asked whether the result can
be packed.
-/

/-- A number of 53 bits, whose last bit may not be too low. There is no largest one. -/
def OnGrid (q : ℚ) : Prop :=
  ∃ (m : Nat) (e : ℤ), m < 2 ^ 53 ∧ -1074 ≤ e ∧ |q| = m * 2 ^ e

/-- A number of 53 bits than which no other is nearer to a given number. -/
def IsNearest (r v : ℚ) : Prop :=
  ∀ a, OnGrid a → |v - r| ≤ |a - r|

theorem OnGrid.neg {q : ℚ} (h : OnGrid q) : OnGrid (-q) := by
  rcases h with ⟨m, e, hm, he, hq⟩
  exact ⟨m, e, hm, he, by rw [abs_neg, hq]⟩

theorem OnGrid.two_mul {q : ℚ} (h : OnGrid q) : OnGrid (2 * q) := by
  rcases h with ⟨m, e, hm, he, hq⟩
  refine ⟨m, e + 1, hm, by omega, ?_⟩
  rw [abs_mul, abs_two, hq, zpow_add_one₀ (by norm_num)]
  ring

theorem IsNearest.le {r v a : ℚ} (h : IsNearest r v) (ha : OnGrid a) (hr : r ≤ a) : v ≤ a := by
  have hnear := h a ha
  rw [abs_of_nonneg (by linarith : 0 ≤ a - r)] at hnear
  have hv := le_trans (le_abs_self (v - r)) hnear
  linarith

theorem IsNearest.ge {r v a : ℚ} (h : IsNearest r v) (ha : OnGrid a) (hr : a ≤ r) : a ≤ v := by
  have hnear := h a ha
  rw [abs_sub_comm a r, abs_of_nonneg (by linarith : 0 ≤ r - a)] at hnear
  have hv := le_trans (neg_le_abs (v - r)) hnear
  linarith

theorem IsNearest.neg {r v : ℚ} (h : IsNearest r v) : IsNearest (-r) (-v) := by
  intro a ha
  have hnear := h (-a) ha.neg
  have hleft : -v - -r = -(v - r) := by ring
  have hright : a - -r = -(-a - r) := by ring
  rw [hleft, hright, abs_neg, abs_neg]
  exact hnear

theorem isNearest_of_multiples {x v : ℚ} {t : ℤ}
    (hmultiples : ∀ k : ℤ, |v - x| ≤ |(k : ℚ) - x|) (hfull : 2 ^ 52 ≤ x ∨ t = -1074) :
    IsNearest (x * 2 ^ t) (v * 2 ^ t) := by
  have hunit : (0 : ℚ) < 2 ^ t := by positivity
  have hscale : ∀ b : ℚ, |b * 2 ^ t - x * 2 ^ t| = |b - x| * 2 ^ t := by
    intro b
    rw [← sub_mul, abs_mul, abs_of_pos hunit]
  rintro a ⟨m, e, hm, he, ha⟩
  rw [hscale]
  rcases le_or_gt t e with hte | hte
  · -- The other number is a multiple of the last bit.
    have hmultiple : ∃ k : ℤ, a = k * 2 ^ t := by
      have hpower : (2 : ℚ) ^ e = ((2 ^ (e - t).toNat : ℤ) : ℚ) * 2 ^ t := by
        push_cast
        rw [← zpow_natCast, ← zpow_add₀ (by norm_num), Int.toNat_of_nonneg (by omega)]
        congr 1
        ring
      rcases abs_choice a with habs | habs
      · refine ⟨m * 2 ^ (e - t).toNat, ?_⟩
        rw [← habs, ha, hpower]
        push_cast
        ring
      · refine ⟨-(m * 2 ^ (e - t).toNat), ?_⟩
        have hneg : a = -|a| := by rw [habs, neg_neg]
        rw [hneg, ha, hpower]
        push_cast
        ring
    rcases hmultiple with ⟨k, rfl⟩
    rw [hscale]
    exact mul_le_mul_of_nonneg_right (hmultiples k) hunit.le
  · -- The other number has a lower last bit, so it is below every full significand.
    have hlow : 2 ^ 52 ≤ x := hfull.resolve_right (by omega)
    have hbelow : a ≤ 2 ^ 52 * 2 ^ t := by
      have hm' : (m : ℚ) ≤ 2 ^ 53 := by exact_mod_cast hm.le
      have hpower : (2 : ℚ) ^ e ≤ 2 ^ (t - 1) := zpow_le_zpow_right₀ (by norm_num) (by omega)
      calc
        a ≤ |a| := le_abs_self a
        _ = m * 2 ^ e := ha
        _ ≤ 2 ^ 53 * 2 ^ (t - 1) := by gcongr
        _ = 2 ^ 52 * 2 ^ t := by
          rw [zpow_sub_one₀ (by norm_num)]
          ring
    have hfloor : |v - x| ≤ x - 2 ^ 52 := by
      have hnear := hmultiples (2 ^ 52)
      have hcast : ((2 ^ 52 : ℤ) : ℚ) = 2 ^ 52 := by norm_cast
      rw [hcast, abs_of_nonpos (by linarith : (2 : ℚ) ^ 52 - x ≤ 0)] at hnear
      linarith
    calc
      |v - x| * 2 ^ t ≤ (x - 2 ^ 52) * 2 ^ t := mul_le_mul_of_nonneg_right hfloor hunit.le
      _ = x * 2 ^ t - 2 ^ 52 * 2 ^ t := by ring
      _ ≤ x * 2 ^ t - a := by linarith
      _ ≤ |a - x * 2 ^ t| := by
        rw [abs_sub_comm]
        exact le_abs_self _

/-!
## Rounded numbers

A form is shifted to the exponent it has to have, rounded, and shifted again if the rounding has
carried. Each of these steps keeps the form near to the exact number, and together they give a
nearest one.
-/

def signFactor : Sign → ℚ
  | .negative => -1
  | .positive => 1

def value : UnpackedFloat → ℚ
  | .finite s m e _ => signFactor s * (m * 2 ^ e)
  | _ => 0

/-- A finite form that rounding can give. Its exponent may be too large to be packed. -/
def IsReduced : UnpackedFloat → Prop
  | .finite _ m e _ => m < 2 ^ 53 ∧ -1074 ≤ e ∧ (2 ^ 52 ≤ m ∨ e = -1074)
  | .zero _ => True
  | _ => False

theorem targetExponent_eq (m : Nat) (e : ℤ) :
    Format.binary64.targetExponent (totalExponent m e) =
      max ((m.log2 : ℤ) + e - 52) (-1074) := by
  have htotal : (totalExponent m e) - (Format.binary64.mantissaBits : ℤ) = m.log2 + e - 52 := by
    show (m.log2 : ℤ) + 1 + e - 53 = _
    omega
  unfold Format.targetExponent
  rw [htotal]
  rfl

theorem shiftToTargetExponent_eq (m : Nat) (e : ℤ) (accuracy : Accuracy) :
    shiftToTargetExponent Format.binary64 m e accuracy =
      (ExtendedMantissa.ofMantissaAndAccuracy m accuracy >>>
          (max ((m.log2 : ℤ) + e - 52) (-1074) - e).toNat,
        e + (max ((m.log2 : ℤ) + e - 52) (-1074) - e).toNat) := by
  unfold shiftToTargetExponent shiftToExponent
  rw [targetExponent_eq]

theorem shiftToTargetExponent_rounded {m : Nat} {e : ℤ} (hm : m ≤ 2 ^ 53) (he : -1074 ≤ e) :
    ∃ (m' : Nat) (e' : ℤ),
      (shiftToTargetExponent Format.binary64 m e .exact).1.mantissa = m' ∧
      (shiftToTargetExponent Format.binary64 m e .exact).2 = e' ∧
      m' < 2 ^ 53 ∧ -1074 ≤ e' ∧ (m' : ℚ) * 2 ^ e' = m * 2 ^ e ∧
      (2 ^ 52 ≤ m ∨ e = -1074 → 2 ^ 52 ≤ m' ∨ e' = -1074) := by
  rw [shiftToTargetExponent_eq]
  rcases Nat.lt_or_eq_of_le hm with hlt | heq
  · have hlog : m.log2 ≤ 52 := by
      by_cases hzero : m = 0
      · rw [hzero]
        decide
      · have hbits := (Nat.log2_lt hzero).mpr hlt
        omega
    have hshift : (max ((m.log2 : ℤ) + e - 52) (-1074) - e).toNat = 0 := by omega
    rw [hshift]
    exact ⟨m, e, rfl, by simp, hlt, he, rfl, id⟩
  · have hlog : m.log2 = 53 := by
      rw [heq]
      exact Nat.log2_two_pow
    have hshift : (max ((m.log2 : ℤ) + e - 52) (-1074) - e).toNat = 1 := by omega
    rw [hshift]
    refine ⟨2 ^ 52, e + 1, ?_, rfl, by norm_num, by omega, ?_, fun _ => Or.inl (le_refl _)⟩
    · show m / 2 = 2 ^ 52
      omega
    · rw [heq, zpow_add_one₀ (by norm_num)]
      push_cast
      ring

theorem shifted_bounds {m n : Nat} {e : ℤ} {y : ℚ} (hle : (m : ℚ) ≤ y) (hlt : y < m + 1)
    (hn : e + n = max ((m.log2 : ℤ) + e - 52) (-1074)) :
    y / 2 ^ n < 2 ^ 53 ∧ (2 ^ 52 ≤ y / 2 ^ n ∨ e + n = -1074) := by
  have hunit : (0 : ℚ) < 2 ^ n := by positivity
  constructor
  · have hbits : (m : ℚ) + 1 ≤ 2 ^ (m.log2 + 1) := by exact_mod_cast (Nat.lt_log2_self (n := m))
    have hpower : (2 : ℚ) ^ (m.log2 + 1) ≤ 2 ^ (53 + n) :=
      pow_le_pow_right₀ (by norm_num) (by omega)
    rw [div_lt_iff₀ hunit, ← pow_add]
    linarith
  · by_cases hlow : e + n = -1074
    · exact Or.inr hlow
    · left
      have hlog : m.log2 = 52 + n := by omega
      have hm : m ≠ 0 := by
        rintro rfl
        rw [Nat.log2_zero] at hlog
        omega
      have hbits : (2 : ℚ) ^ (52 + n) ≤ m := by
        rw [← hlog]
        exact_mod_cast Nat.log2_self_le hm
      rw [le_div_iff₀ hunit, ← pow_add]
      linarith

/-- Rounding gives a nearest number of 53 bits, if the significand has not been cut short. -/
theorem roundWithAccuracy_spec (s : Sign) {m : Nat} {e : ℤ} {accuracy : Accuracy} {r : ℚ}
    (hr : Truncates (ExtendedMantissa.ofMantissaAndAccuracy m accuracy) (r / 2 ^ e))
    (he : e ≤ max ((m.log2 : ℤ) + e - 52) (-1074)) :
    IsReduced (roundWithAccuracy Format.binary64 s m e accuracy) ∧
      IsNearest (signFactor s * r) (value (roundWithAccuracy Format.binary64 s m e accuracy)) := by
  have hmantissa : (ExtendedMantissa.ofMantissaAndAccuracy m accuracy).mantissa = m := by
    cases accuracy with
    | exact => rfl
    | inexact order => cases order <;> rfl
  have hle := hr.le
  have hlt := hr.lt
  rw [hmantissa] at hle hlt
  -- The first shift brings the last bit to its place.
  obtain ⟨n, hn⟩ : ∃ n : Nat, (max ((m.log2 : ℤ) + e - 52) (-1074) - e).toNat = n := ⟨_, rfl⟩
  have hplace : e + n = max ((m.log2 : ℤ) + e - 52) (-1074) := by omega
  obtain ⟨em, hem⟩ : ∃ em, ExtendedMantissa.ofMantissaAndAccuracy m accuracy >>> n = em := ⟨_, rfl⟩
  have hshifted := hr.shiftRight n
  rw [hem] at hshifted
  rcases shifted_bounds hle hlt hplace with ⟨hsmall, hfull⟩
  obtain ⟨x, hx⟩ : ∃ x, r / 2 ^ e / 2 ^ n = x := ⟨_, rfl⟩
  rw [hx] at hshifted hsmall hfull
  have hrx : r = x * 2 ^ (e + n : ℤ) := by
    rw [← hx, zpow_add₀ (by norm_num), zpow_natCast]
    field_simp
  -- The significand is rounded.
  have hsteps := roundedMantissa_le_succ em
  have hbits : em.mantissa < 2 ^ 53 := by
    have hcast : (em.mantissa : ℚ) < 2 ^ 53 := lt_of_le_of_lt hshifted.le hsmall
    exact_mod_cast hcast
  have hnearest := isNearest_of_multiples hshifted.nearest hfull
  rw [← hrx] at hnearest
  -- The second shift gives up a bit that was carried.
  rcases shiftToTargetExponent_rounded (m := em.roundedMantissa) (e := e + n) (by omega)
    (by omega) with ⟨m', e', hm', he', hsmall', hleast', hvalue', hfull'⟩
  have hfullRounded : 2 ^ 52 ≤ em.roundedMantissa ∨ e + n = -1074 := by
    rcases hfull with hfull | hfull
    · have hcast : (2 ^ 52 : ℚ) < em.mantissa + 1 := lt_of_le_of_lt hfull hshifted.lt
      have hnat : 2 ^ 52 < em.mantissa + 1 := by exact_mod_cast hcast
      exact Or.inl (by omega)
    · exact Or.inr hfull
  have hround : roundWithAccuracy Format.binary64 s m e accuracy =
      if h : m' = 0 then .zero s else .finite s m' e' (Nat.pos_of_ne_zero h) := by
    unfold roundWithAccuracy
    rw [shiftToTargetExponent_eq m e accuracy, hn, hem]
    simp only [hm', he']
  rw [hround]
  have hsigned : IsNearest (signFactor s * r) (signFactor s * (m' * 2 ^ e')) := by
    rw [hvalue']
    cases s with
    | positive =>
        rw [signFactor, one_mul, one_mul]
        exact hnearest
    | negative =>
        rw [signFactor, neg_one_mul, neg_one_mul]
        exact hnearest.neg
  by_cases hzero : m' = 0
  · rw [dif_pos hzero]
    rw [hzero, Nat.cast_zero, zero_mul, mul_zero] at hsigned
    exact ⟨trivial, hsigned⟩
  · rw [dif_neg hzero]
    exact ⟨⟨hsmall', hleast', hfull' hfullRounded⟩, hsigned⟩

theorem log2_shiftLeft {m : Nat} (hm : m ≠ 0) (n : Nat) : (m <<< n).log2 = m.log2 + n := by
  have hne : m <<< n ≠ 0 := by
    rw [Nat.shiftLeft_eq]
    exact Nat.mul_ne_zero hm (Nat.two_pow_pos n).ne'
  have hlow := Nat.mul_le_mul_right (2 ^ n) (Nat.log2_self_le hm)
  have hhigh := Nat.mul_lt_mul_of_pos_right (Nat.lt_log2_self (n := m)) (Nat.two_pow_pos n)
  rw [Nat.log2_eq_iff hne, Nat.shiftLeft_eq]
  constructor
  · rw [Nat.pow_add]
    exact hlow
  · rw [Nat.add_right_comm, Nat.pow_add]
    exact hhigh

theorem round_spec (s : Sign) {m : Nat} (hm : m ≠ 0) (e : ℤ) :
    IsReduced (UnpackedFloat.round Format.binary64 s m e) ∧
      IsNearest (signFactor s * (m * 2 ^ e)) (value (UnpackedFloat.round Format.binary64 s m e)) := by
  obtain ⟨n, hn⟩ : ∃ n : Nat, (e - max ((m.log2 : ℤ) + e - 52) (-1074)).toNat = n := ⟨_, rfl⟩
  have hround : UnpackedFloat.round Format.binary64 s m e =
      roundWithAccuracy Format.binary64 s (m <<< n) (e - n) .exact := by
    unfold UnpackedFloat.round decreaseExponent
    simp only [targetExponent_eq, hn]
  have hlog := log2_shiftLeft hm n
  have hexact : (m * 2 ^ e : ℚ) / 2 ^ (e - n) = ((m <<< n : Nat) : ℚ) := by
    rw [Nat.shiftLeft_eq, zpow_sub₀ (by norm_num), zpow_natCast]
    push_cast
    field_simp
  rw [hround]
  refine roundWithAccuracy_spec s ?_ ?_
  · rw [hexact]
    exact truncates_exact _
  · rw [hlog]
    push_cast
    omega

theorem normalize_spec (mantissa e : ℤ) (zeroSign : Sign) :
    IsReduced (UnpackedFloat.normalize Format.binary64 mantissa e zeroSign) ∧
      IsNearest (mantissa * 2 ^ e)
        (value (UnpackedFloat.normalize Format.binary64 mantissa e zeroSign)) := by
  unfold UnpackedFloat.normalize
  rcases lt_trichotomy mantissa 0 with hneg | hzero | hpos
  · rw [compare_lt_iff_lt.mpr hneg]
    have hspec := round_spec .negative (m := (-mantissa).toNat) (by omega) e
    have hcast : (((-mantissa).toNat : Nat) : ℚ) = -mantissa := by
      have hint : (((-mantissa).toNat : Nat) : ℤ) = -mantissa := Int.toNat_of_nonneg (by omega)
      exact_mod_cast hint
    have hexact : signFactor .negative * ((((-mantissa).toNat : Nat) : ℚ) * 2 ^ e) =
        mantissa * 2 ^ e := by
      rw [hcast, signFactor]
      ring
    rw [hexact] at hspec
    exact hspec
  · rw [hzero, compare_eq_iff_eq.mpr rfl]
    refine ⟨trivial, ?_⟩
    intro a _
    simp [value]
  · rw [compare_gt_iff_gt.mpr hpos]
    have hspec := round_spec .positive (m := mantissa.toNat) (by omega) e
    have hcast : ((mantissa.toNat : Nat) : ℚ) = mantissa := by
      have hint : ((mantissa.toNat : Nat) : ℤ) = mantissa := Int.toNat_of_nonneg (by omega)
      exact_mod_cast hint
    have hexact : signFactor .positive * (((mantissa.toNat : Nat) : ℚ) * 2 ^ e) =
        mantissa * 2 ^ e := by
      rw [hcast, signFactor]
      ring
    rw [hexact] at hspec
    exact hspec

end Binary64
end TileAudit
