import TileAudit.Proofs.Binary64.Zeros

/-!
# Rounding keeps order

A larger exact result is never rounded to a smaller number, and one that lies between results
which fit binary64 fits as well. So adding a number, or multiplying by one, keeps numbers in
their order or reverses it.
-/

namespace TileAudit
namespace Binary64

open Float.Model Float.Model.UnpackedFloat

theorem onGrid_value {u : UnpackedFloat} (hu : IsReduced u) : OnGrid (value u) := by
  cases u with
  | notANumber => exact hu.elim
  | infinity s => exact hu.elim
  | zero s => exact ⟨0, 0, by norm_num, by norm_num, by simp [value]⟩
  | finite s m e hm => exact ⟨m, e, hu.1, hu.2.1, abs_value_finite s hm⟩

section

variable {r r' v v' : ℚ}

theorem IsNearest.eq_of_onGrid (h : IsNearest r v) (hr : OnGrid r) : v = r :=
  le_antisymm (h.le hr le_rfl) (h.ge hr le_rfl)

theorem IsNearest.mono (h : IsNearest r v) (h' : IsNearest r' v') (hv : OnGrid v)
    (hv' : OnGrid v') (hlt : r < r') : v ≤ v' := by
  by_contra hnot
  have hgap : 0 < v - v' := by linarith
  -- Each exact result lies on its own side of the middle between the two numbers.
  have hleft : (v - v') * (v + v' - 2 * r) ≤ 0 := by
    have hsquares := sq_le_sq.mpr (h v' hv')
    linarith
  have hright : 0 ≤ (v - v') * (v + v' - 2 * r') := by
    have hsquares := sq_le_sq.mpr (h' v hv)
    linarith
  have hbelow := nonpos_of_mul_nonpos_right hleft hgap
  have habove := nonneg_of_mul_nonneg_right hright hgap
  linarith

end

/-!
## Results and their rounding

A rounded result has an exact value, a nearest number of 53 bits, and a number that stands for this
one unless it is too large. With this relation a result that overflows takes part in the order as
well.
-/

theorem unpack_pack_of_large {s : Sign} {m : Nat} {e : ℤ} (hm : 0 < m) (he : 972 ≤ e) :
    (Float.Model.pack (.finite s m e hm)).unpack = .infinity s := by
  have hpacked : UnpackedFloat.pack Format.binary64 (.finite s m e hm) =
      UnpackedFloat.pack Format.binary64 (.infinity s) := by
    have hbias : 2 ^ Format.binary64.exponentBits ≤
        (e + (Format.binary64.exponentBias : ℤ) +
          (Format.binary64.mantissaBitsWithoutImplicit : ℤ)).toNat + 1 := by
      show 2 ^ 11 ≤ (e + 1023 + 52).toNat + 1
      omega
    unfold UnpackedFloat.pack
    rw [if_pos hbias]
  show UnpackedFloat.unpack Format.binary64 (UnpackedFloat.pack Format.binary64 _) = _
  rw [hpacked]
  exact unpack_pack trivial

/-- A number is what an exact result `r` is rounded to: `v` is a number of 53 bits that is nearest
to it, and the number stands for `v`, or is infinite because `v` is too large. -/
structure IsRounded (x : Float) (r v : ℚ) : Prop where
  nearest : IsNearest r v
  onGrid : OnGrid v
  hasValue : |v| < 2 ^ 1024 → HasValue x v
  infinite : 2 ^ 1024 ≤ |v| →
    ∃ s, x.toModel.unpack = .infinity s ∧ 2 ^ 1024 ≤ signFactor s * v

theorem isRounded_pack {u : UnpackedFloat} {r : ℚ} (hu : IsReduced u)
    (hnearest : IsNearest r (value u)) : IsRounded (.ofModel (.pack u)) r (value u) := by
  refine ⟨hnearest, onGrid_value hu, hasValue_pack hu, ?_⟩
  intro hlarge
  cases u with
  | notANumber => exact hu.elim
  | infinity s => exact hu.elim
  | zero s =>
      have hzero : |value (.zero s)| = 0 := abs_zero
      rw [hzero] at hlarge
      exact absurd hlarge (not_le.mpr (by positivity))
  | finite s m e hm =>
      rw [abs_value_finite s hm] at hlarge
      refine ⟨s, unpack_pack_of_large hm ?_, ?_⟩
      · by_contra hnot
        have hmagnitude : |(m * 2 ^ e : ℚ)| = m * 2 ^ e := abs_of_nonneg (by positivity)
        have hrepresentable : IsRepresentable (m * 2 ^ e) :=
          ⟨m, e, hu.1, hu.2.1, by omega, hmagnitude⟩
        have hless := hrepresentable.lt
        rw [hmagnitude] at hless
        exact absurd hless (not_lt.mpr hlarge)
      · have hsign : signFactor s * value (.finite s m e hm) = m * 2 ^ e := by
          show signFactor s * (signFactor s * (m * 2 ^ e)) = _
          cases s with
          | negative => rw [signFactor, neg_one_mul, neg_one_mul, neg_neg]
          | positive => rw [signFactor, one_mul, one_mul]
        rw [hsign]
        exact hlarge

theorem HasValue.lt_infinity_iff {x y : Float} {b : ℚ} {s : Sign} (hy : HasValue y b)
    (hx : x.toModel.unpack = .infinity s) : y < x ↔ s = .positive := by
  show decide (y.toModel < x.toModel) = true ↔ _
  rw [decide_eq_true_iff]
  show (y.toModel.unpack.compare x.toModel.unpack == some .lt) = true ↔ _
  rw [hx]
  rcases hy.zero_or_finite with ⟨t, ht, _⟩ | ⟨t, m, e, hm, ht, _⟩
  · rw [ht]
    cases s <;> simp [UnpackedFloat.compare]
  · rw [ht]
    cases s <;> cases t <;> simp [UnpackedFloat.compare]

section

variable {x y : Float} {a b r v : ℚ}

theorem HasValue.unique (hx : HasValue x a) (hx' : HasValue x b) : a = b :=
  hx.value_eq.symm.trans hx'.value_eq

theorem IsRounded.eq_of_hasValue (h : IsRounded x r v) (hx : HasValue x a) : v = a := by
  rcases lt_or_ge |v| (2 ^ 1024) with hsmall | hlarge
  · exact (h.hasValue hsmall).unique hx
  · rcases h.infinite hlarge with ⟨s, hs, _⟩
    have hfinite := hx.finite
    rw [hs] at hfinite
    cases hfinite

theorem IsRounded.isNearest (h : IsRounded x r v) (hx : HasValue x a) : IsNearest r a := by
  rw [← h.eq_of_hasValue hx]
  exact h.nearest

theorem IsRounded.lt_iff (h : IsRounded x r v) (hy : HasValue y b) : y < x ↔ b < v := by
  rcases lt_or_ge |v| (2 ^ 1024) with hsmall | hlarge
  · exact hy.lt_iff (h.hasValue hsmall)
  · rcases h.infinite hlarge with ⟨s, hs, hbeyond⟩
    rw [hy.lt_infinity_iff hs]
    have hfinite := abs_lt.mp hy.isRepresentable.lt
    cases s with
    | positive =>
        rw [signFactor, one_mul] at hbeyond
        exact iff_of_true rfl (lt_of_lt_of_le hfinite.2 hbeyond)
    | negative =>
        rw [signFactor, neg_one_mul] at hbeyond
        refine iff_of_false Sign.noConfusion (not_lt.mpr ?_)
        exact le_trans (le_neg_of_le_neg hbeyond) hfinite.1.le

end

/-- A result between two others is finite and between them if these are finite. Results that are one
number count as being in order. -/
theorem IsRounded.exists_between {x m y : Float} {r r' r'' u v w a c : ℚ} (hu : IsRounded x r u)
    (hv : IsRounded m r' v) (hw : IsRounded y r'' w) (hlow : x = m ∨ u ≤ v) (hhigh : m = y ∨ v ≤ w)
    (hx : HasValue x a) (hy : HasValue y c) : ∃ b, HasValue m b ∧ a ≤ b ∧ b ≤ c := by
  have hua := hu.eq_of_hasValue hx
  have hwc := hw.eq_of_hasValue hy
  rcases hlow with rfl | huv
  · refine ⟨a, hx, le_rfl, ?_⟩
    rcases hhigh with rfl | hvw
    · exact (hx.unique hy).le
    · rwa [hv.eq_of_hasValue hx, hwc] at hvw
  · rcases hhigh with rfl | hvw
    · rw [hua, hv.eq_of_hasValue hy] at huv
      exact ⟨c, hy, huv, le_rfl⟩
    · rw [hua] at huv
      rw [hwc] at hvw
      have hsmall : |v| < 2 ^ 1024 :=
        abs_lt.mpr ⟨lt_of_lt_of_le (abs_lt.mp hx.isRepresentable.lt).1 huv,
          lt_of_le_of_lt hvw (abs_lt.mp hy.isRepresentable.lt).2⟩
      exact ⟨v, hv.hasValue hsmall, huv, hvw⟩

/-!
## Arithmetic

Every operation on finite numbers rounds the exact result, and so does the conversion of a natural
number of any size.
-/

section

variable {x y : Float} {a b r v : ℚ}

theorem HasValue.exists_add (hx : HasValue x a) (hy : HasValue y b) :
    ∃ v, IsRounded (x + y) (a + b) v := by
  have hspec := add_spec hx.isReduced hy.isReduced
  rw [hx.value_eq, hy.value_eq] at hspec
  exact ⟨_, isRounded_pack hspec.1 hspec.2⟩

theorem HasValue.exists_sub (hx : HasValue x a) (hy : HasValue y b) :
    ∃ v, IsRounded (x - y) (a - b) v := by
  have hspec := sub_spec hx.isReduced hy.isReduced
  rw [hx.value_eq, hy.value_eq] at hspec
  exact ⟨_, isRounded_pack hspec.1 hspec.2⟩

theorem HasValue.exists_mul (hx : HasValue x a) (hy : HasValue y b) :
    ∃ v, IsRounded (x * y) (a * b) v := by
  have hspec := mul_spec hx.isReduced hy.isReduced
  rw [hx.value_eq, hy.value_eq] at hspec
  exact ⟨_, isRounded_pack hspec.1 hspec.2⟩

theorem HasValue.exists_div (hx : HasValue x a) (hy : HasValue y b) (hb : b ≠ 0) :
    ∃ v, IsRounded (x / y) (a / b) v := by
  have hspec := div_spec hx.isReduced hy.isReduced (by rw [hy.value_eq]; exact hb)
  rw [hx.value_eq, hy.value_eq] at hspec
  exact ⟨_, isRounded_pack hspec.1 hspec.2⟩

theorem HasValue.nearest_add (hx : HasValue x a) (hy : HasValue y b) (h : HasValue (x + y) r) :
    IsNearest (a + b) r := by
  rcases hx.exists_add hy with ⟨v, hv⟩
  exact hv.isNearest h

theorem HasValue.nearest_sub (hx : HasValue x a) (hy : HasValue y b) (h : HasValue (x - y) r) :
    IsNearest (a - b) r := by
  rcases hx.exists_sub hy with ⟨v, hv⟩
  exact hv.isNearest h

theorem HasValue.nearest_mul (hx : HasValue x a) (hy : HasValue y b) (h : HasValue (x * y) r) :
    IsNearest (a * b) r := by
  rcases hx.exists_mul hy with ⟨v, hv⟩
  exact hv.isNearest h

theorem HasValue.nearest_div (hx : HasValue x a) (hy : HasValue y b) (hb : b ≠ 0)
    (h : HasValue (x / y) r) : IsNearest (a / b) r := by
  rcases hx.exists_div hy hb with ⟨v, hv⟩
  exact hv.isNearest h

end

theorem HasValue.isRounded {x : Float} {a : ℚ} (h : HasValue x a) : IsRounded x a a := by
  refine ⟨isNearest_self a, h.isRepresentable.onGrid, fun _ => h, ?_⟩
  intro hlarge
  exact absurd h.isRepresentable.lt (not_lt.mpr hlarge)

theorem exists_isRounded_exact {m : Nat} {e : ℤ} (he : e ≤ max ((m.log2 : ℤ) + e - 52) (-1074)) :
    ∃ v, IsRounded (.ofModel (.pack (roundWithAccuracy Format.binary64 .positive m e .exact)))
      (m * 2 ^ e) v := by
  have htruncates : Truncates (ExtendedMantissa.ofMantissaAndAccuracy m .exact)
      ((m * 2 ^ e : ℚ) / 2 ^ e) := by
    rw [mul_div_cancel_right₀ _ (by positivity)]
    exact truncates_exact m
  have hspec := roundWithAccuracy_spec .positive htruncates he
  rw [signFactor, one_mul] at hspec
  exact ⟨_, isRounded_pack hspec.1 hspec.2⟩

theorem exists_isRounded_ofNat (n : Nat) : ∃ v, IsRounded (Float.ofNat n) n v := by
  by_cases hsmall : n < 2 ^ 53
  · exact ⟨n, (hasValue_ofNat hsmall).isRounded⟩
  · have hmodel : Float.ofNat n = .ofModel (.pack (roundWithAccuracy Format.binary64 .positive
        (n <<< 53 * 1) (-53 + 0) .exact)) := by
      have hnegative : ¬ (0 : ℤ) < -(2 ^ 11 + (n.log2 : ℤ)) := by omega
      show Float.ofScientific n false 0 = _
      unfold Float.ofScientific
      rw [dif_neg (fun h => hsmall h.1)]
      show Float.ofModel (.pack (UnpackedFloat.ofScientific Format.binary64 n 0)) = _
      unfold UnpackedFloat.ofScientific
      rw [dif_neg (by omega), if_neg (by decide), if_neg hnegative, if_pos le_rfl]
      rfl
    have hplace : (-53 + 0 : ℤ) ≤ max (((n <<< 53 * 1).log2 : ℤ) + (-53 + 0) - 52) (-1074) := by
      rw [Nat.mul_one, log2_shiftLeft (by omega)]
      have hbits : 53 ≤ n.log2 := (Nat.le_log2 (by omega)).mpr (by omega)
      omega
    have hexact : ((n <<< 53 * 1 : Nat) : ℚ) * (2 : ℚ) ^ (-53 + 0 : ℤ) = n := by
      rw [Nat.shiftLeft_eq, Nat.mul_one, add_zero, Nat.cast_mul, mul_assoc]
      norm_num
    have hrounded := exists_isRounded_exact hplace
    rw [hexact, ← hmodel] at hrounded
    exact hrounded

theorem onGrid_one : OnGrid 1 :=
  (isRepresentable_ofNat (n := 1) (by norm_num)).onGrid

theorem IsRounded.one_le {n : Nat} {v : ℚ} (h : IsRounded (Float.ofNat n) n v) (hn : 0 < n) :
    1 ≤ v := by
  have hone : (1 : ℚ) ≤ n := by exact_mod_cast hn
  exact h.nearest.ge onGrid_one hone

/-!
## Lines

Adding a number to, subtracting it from, multiplying or dividing the argument are all lines `k * a +
d`. What is true of results in order is proved for lines once.
-/

/-- A function of one number that rounds the line `k * a + d`, and is finite for finite
numbers only. -/
structure RoundsLine (f : Float → Float) (k d : ℚ) : Prop where
  onGrid : OnGrid d
  rounded : ∀ {x a}, HasValue x a → ∃ v, IsRounded (f x) (k * a + d) v
  finite : ∀ {x}, (f x).isFinite = true → x.isFinite = true

section

variable {c : Float} {q : ℚ}

theorem roundsLine_add_right (hc : HasValue c q) : RoundsLine (fun x => x + c) 1 q := by
  refine ⟨hc.isRepresentable.onGrid, fun hx => ?_, fun h => (isFinite_of_add h).1⟩
  rw [one_mul]
  exact hx.exists_add hc

theorem roundsLine_add_left (hc : HasValue c q) : RoundsLine (fun x => c + x) 1 q := by
  refine ⟨hc.isRepresentable.onGrid, fun hx => ?_, fun h => (isFinite_of_add h).2⟩
  rw [one_mul, add_comm]
  exact hc.exists_add hx

theorem roundsLine_sub_right (hc : HasValue c q) : RoundsLine (fun x => x - c) 1 (-q) := by
  refine ⟨hc.isRepresentable.onGrid.neg, fun hx => ?_, fun h => (isFinite_of_sub h).1⟩
  rw [one_mul, ← sub_eq_add_neg]
  exact hx.exists_sub hc

theorem roundsLine_sub_left (hc : HasValue c q) : RoundsLine (fun x => c - x) (-1) q := by
  refine ⟨hc.isRepresentable.onGrid, fun hx => ?_, fun h => (isFinite_of_sub h).2⟩
  rw [neg_one_mul, neg_add_eq_sub]
  exact hc.exists_sub hx

theorem roundsLine_mul_right (hc : HasValue c q) : RoundsLine (fun x => x * c) q 0 := by
  refine ⟨hasValue_zero.isRepresentable.onGrid, fun hx => ?_, fun h => (isFinite_of_mul h).1⟩
  rw [add_zero, mul_comm]
  exact hx.exists_mul hc

theorem roundsLine_div_right (hc : HasValue c q) (hq : q ≠ 0) :
    RoundsLine (fun x => x / c) q⁻¹ 0 := by
  refine ⟨hasValue_zero.isRepresentable.onGrid, fun hx => ?_, fun h => isFinite_of_div h⟩
  rw [add_zero, inv_mul_eq_div]
  exact hx.exists_div hc hq

end

namespace RoundsLine

variable {f : Float → Float} {k d : ℚ} {x m y : Float} {a b c a' c' : ℚ}

/-- Two results are in the order of the line, unless they are one number that has not been told
which of two neighbours it is rounded to. -/
theorem eq_or_le (h : RoundsLine f k d) (hx : HasValue x a) (hy : HasValue y b)
    (hle : k * a ≤ k * b) {v w : ℚ} (hv : IsRounded (f x) (k * a + d) v)
    (hw : IsRounded (f y) (k * b + d) w) : f x = f y ∨ v ≤ w := by
  rcases hle.lt_or_eq with hlt | heq
  · exact Or.inr (hv.nearest.mono hw.nearest hv.onGrid hw.onGrid (by linarith))
  · -- Where the line crosses its offset the result is exact.
    have hexact : k * a = 0 → v ≤ w := by
      intro hzero
      have hline : k * a + d = d := by rw [hzero, zero_add]
      have hline' : k * b + d = d := by rw [← heq, hzero, zero_add]
      rw [hline] at hv
      rw [hline'] at hw
      rw [hv.nearest.eq_of_onGrid h.onGrid, hw.nearest.eq_of_onGrid h.onGrid]
    by_cases hk : k = 0
    · exact Or.inr (hexact (by rw [hk, zero_mul]))
    · have hab : a = b := mul_left_cancel₀ hk heq
      rcases sameNumber_of_beq ((hx.beq_iff hy).mpr hab) with hsame | ⟨hzero, _⟩
      · exact Or.inl (congrArg f hsame)
      · have ha : a = 0 := by
          by_contra hne
          exact hx.not_isZero hne hzero
        exact Or.inr (hexact (by rw [ha, mul_zero]))

theorem exists_between (h : RoundsLine f k d) (hx : HasValue x a) (hm : HasValue m b)
    (hy : HasValue y c) (hlow : k * a ≤ k * b) (hhigh : k * b ≤ k * c)
    (hfx : HasValue (f x) a') (hfy : HasValue (f y) c') :
    ∃ b', HasValue (f m) b' ∧ a' ≤ b' ∧ b' ≤ c' := by
  rcases h.rounded hx with ⟨u, hu⟩
  rcases h.rounded hm with ⟨v, hv⟩
  rcases h.rounded hy with ⟨w, hw⟩
  exact hu.exists_between hv hw (h.eq_or_le hx hm hlow hu hv) (h.eq_or_le hm hy hhigh hv hw) hfx hfy

theorem le_of_le (h : RoundsLine f k d) (hx : HasValue x a) (hy : HasValue y c)
    (hle : k * a ≤ k * c) (hfx : HasValue (f x) a') (hfy : HasValue (f y) c') : a' ≤ c' := by
  rcases h.exists_between hx hy hy hle le_rfl hfx hfy with ⟨b, _, hlow, hhigh⟩
  exact hlow.trans hhigh

end RoundsLine

end Binary64
end TileAudit
