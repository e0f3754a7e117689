import TileAudit.Proofs.Binary64.Cells

/-!
# The two zeros and the numbers that are not finite

Numbers that compare as equal are the same or are the two zeros. Which zero it is does not show
in a difference that is divided and truncated. A zero that is added or taken away changes no number,
finite or not. A result is finite only if its parts are.
-/

namespace TileAudit
namespace Binary64

open Float.Model Float.Model.UnpackedFloat

/-!
## Numbers that are not finite

What is not finite when it is packed is not finite afterwards, so a finite result tells that the
operands were finite.
-/

section

variable {x y : Float}

theorem hasValue_of_isFinite (h : x.isFinite = true) : ∃ a, HasValue x a :=
  ⟨value x.toModel.unpack, h, rfl⟩

theorem HasValue.isFinite {a : ℚ} (h : HasValue x a) : x.isFinite = true :=
  h.finite

theorem isNaN_eq_false (h : x.isFinite = true) : x.isNaN = false := by
  change x.toModel.unpack.isFinite = true at h
  show x.toModel.unpack.isNaN = false
  cases hunpack : x.toModel.unpack with
  | notANumber =>
      rw [hunpack] at h
      cases h
  | infinity s => rfl
  | zero s => rfl
  | finite s m e hm => rfl

theorem isFinite_of_pack {u : UnpackedFloat} (h : (Float.Model.pack u).unpack.isFinite = true) :
    u.isFinite = true := by
  cases u with
  | notANumber =>
      have hunpack : (Float.Model.pack .notANumber).unpack = .notANumber := unpack_pack trivial
      rw [hunpack] at h
      exact h
  | infinity s =>
      have hunpack : (Float.Model.pack (.infinity s)).unpack = .infinity s := unpack_pack trivial
      rw [hunpack] at h
      exact h
  | zero s => rfl
  | finite s m e hm => rfl

theorem isFinite_of_unpacked_add {u v : UnpackedFloat}
    (h : (UnpackedFloat.add Format.binary64 u v).isFinite = true) :
    u.isFinite = true ∧ v.isFinite = true := by
  cases u with
  | notANumber => cases h
  | infinity s =>
      cases v with
      | notANumber => cases h
      | infinity s' => cases s <;> cases s' <;> cases h
      | zero s' => cases h
      | finite s' m e hm => cases h
  | zero s =>
      cases v with
      | notANumber => cases h
      | infinity s' => cases h
      | zero s' => exact ⟨rfl, rfl⟩
      | finite s' m e hm => exact ⟨rfl, rfl⟩
  | finite s m e hm =>
      cases v with
      | notANumber => cases h
      | infinity s' => cases h
      | zero s' => exact ⟨rfl, rfl⟩
      | finite s' m' e' hm' => exact ⟨rfl, rfl⟩

theorem isFinite_of_neg {u : UnpackedFloat} (h : u.neg.isFinite = true) : u.isFinite = true := by
  cases u <;> exact h

theorem isFinite_of_unpacked_sub {u v : UnpackedFloat}
    (h : (UnpackedFloat.sub Format.binary64 u v).isFinite = true) :
    u.isFinite = true ∧ v.isFinite = true := by
  rw [sub_eq_add] at h
  rcases isFinite_of_unpacked_add h with ⟨hu, hv⟩
  exact ⟨hu, isFinite_of_neg hv⟩

theorem isFinite_of_unpacked_mul {u v : UnpackedFloat}
    (h : (UnpackedFloat.mul Format.binary64 u v).isFinite = true) :
    u.isFinite = true ∧ v.isFinite = true := by
  cases u with
  | notANumber => cases h
  | infinity s =>
      cases v with
      | notANumber => cases h
      | infinity s' => cases h
      | zero s' => cases h
      | finite s' m e hm => cases h
  | zero s =>
      cases v with
      | notANumber => cases h
      | infinity s' => cases h
      | zero s' => exact ⟨rfl, rfl⟩
      | finite s' m e hm => exact ⟨rfl, rfl⟩
  | finite s m e hm =>
      cases v with
      | notANumber => cases h
      | infinity s' => cases h
      | zero s' => exact ⟨rfl, rfl⟩
      | finite s' m' e' hm' => exact ⟨rfl, rfl⟩

theorem isFinite_of_unpacked_div {u v : UnpackedFloat}
    (h : (UnpackedFloat.div Format.binary64 u v).isFinite = true) : u.isFinite = true := by
  cases u with
  | notANumber => cases h
  | infinity s =>
      cases v with
      | notANumber => cases h
      | infinity s' => cases h
      | zero s' => cases h
      | finite s' m e hm => cases h
  | zero s => rfl
  | finite s m e hm => rfl

theorem isFinite_of_add (h : (x + y).isFinite = true) :
    x.isFinite = true ∧ y.isFinite = true :=
  isFinite_of_unpacked_add (isFinite_of_pack h)

theorem isFinite_of_sub (h : (x - y).isFinite = true) :
    x.isFinite = true ∧ y.isFinite = true :=
  isFinite_of_unpacked_sub (isFinite_of_pack h)

theorem isFinite_of_mul (h : (x * y).isFinite = true) :
    x.isFinite = true ∧ y.isFinite = true :=
  isFinite_of_unpacked_mul (isFinite_of_pack h)

theorem isFinite_of_div (h : (x / y).isFinite = true) : x.isFinite = true :=
  isFinite_of_unpacked_div (isFinite_of_pack h)

end

def IsZero (x : Float) : Prop :=
  ∃ s, x.toModel.unpack = .zero s

/-- Two numbers are the same, or both are zero. -/
def SameNumber (x y : Float) : Prop :=
  x = y ∨ (IsZero x ∧ IsZero y)

section

variable {x y w z : Float} {a b : ℚ}

theorem isZero_ofModel_pack (s : Sign) : IsZero (.ofModel (.pack (.zero s))) := by
  refine ⟨s, ?_⟩
  show UnpackedFloat.unpack Format.binary64 (UnpackedFloat.pack Format.binary64 (.zero s)) = _
  exact unpack_pack trivial

theorem IsZero.hasValue (h : IsZero x) : HasValue x 0 := by
  rcases h with ⟨s, hs⟩
  refine ⟨?_, ?_⟩
  · rw [hs]
    rfl
  · rw [hs]
    rfl

theorem HasValue.isZero (h : HasValue x 0) : IsZero x := by
  rcases h.zero_or_finite with ⟨s, hs, _⟩ | ⟨s, m, e, hm, _, hvalue⟩
  · exact ⟨s, hs⟩
  · have hmagnitude := abs_value_finite (e := e) s hm
    rw [hvalue, abs_zero] at hmagnitude
    have hpos : (0 : ℚ) < m * 2 ^ e := by positivity
    exact absurd hmagnitude hpos.ne

theorem HasValue.not_isZero (h : HasValue x a) (ha : a ≠ 0) : ¬ IsZero x := by
  intro hzero
  exact ha (h.value_eq.symm.trans hzero.hasValue.value_eq)

theorem sameNumber_of_beq (h : (x == y) = true) : SameNumber x y := by
  rcases Float.beq_iff_ne_nan_and_eq.mp h with ⟨_, _, rfl | ⟨rfl, rfl⟩ | ⟨rfl, rfl⟩⟩
  · exact Or.inl rfl
  · exact Or.inr ⟨⟨.positive, rfl⟩, ⟨.negative, rfl⟩⟩
  · exact Or.inr ⟨⟨.negative, rfl⟩, ⟨.positive, rfl⟩⟩

theorem isZero_of_beq (h : (x == 0.0) = true) : IsZero x := by
  rcases sameNumber_of_beq h with rfl | ⟨hx, _⟩
  · exact hasValue_zero.isZero
  · exact hx

theorem SameNumber.beq_iff (h : SameNumber x y) : (x == y) = true ↔ y.isNaN = false := by
  rcases h with rfl | ⟨hx, hy⟩
  · rw [Float.beq_self_iff, Float.isNaN_eq_decide_eq_nan, decide_eq_false_iff_not]
  · exact iff_of_true ((hx.hasValue.beq_iff hy.hasValue).mpr rfl) (isNaN_eq_false hy.hasValue.finite)

theorem SameNumber.symm (h : SameNumber x y) : SameNumber y x := by
  rcases h with rfl | ⟨hx, hy⟩
  · exact Or.inl rfl
  · exact Or.inr ⟨hy, hx⟩

theorem SameNumber.trans (h : SameNumber x y) (h' : SameNumber y w) : SameNumber x w := by
  rcases h with rfl | ⟨hx, hy⟩
  · exact h'
  · rcases h' with rfl | ⟨_, hw⟩
    · exact Or.inr ⟨hx, hy⟩
    · exact Or.inr ⟨hx, hw⟩

theorem SameNumber.eq_of_not_isZero (h : SameNumber x y) (hx : ¬ IsZero x) : x = y :=
  h.resolve_right fun hzero => hx hzero.1

/-!
## Arithmetic with zeros

Which zero is added, taken away or divided shows only in a zero, and not in the cell of a
coordinate.
-/

theorem ofModel_pack_unpack (x : Float) : Float.ofModel (.pack x.toModel.unpack) = x :=
  Float.ofBits_toBits x

theorem unpack_neg (x : Float) : (-x).toModel.unpack = x.toModel.unpack.neg := by
  have hcanonical : IsCanonical x.toModel.unpack.neg := by
    have hunpacked : IsCanonical x.toModel.unpack := isCanonical_unpack _
    cases hunpack : x.toModel.unpack with
    | notANumber => trivial
    | infinity s => trivial
    | zero s => trivial
    | finite s m e hm =>
        rw [hunpack] at hunpacked
        exact hunpacked
  exact unpack_pack hcanonical

theorem neg_neg_eq (x : Float) : - -x = x := by
  have hresult : - -x = .ofModel (.pack (-x).toModel.unpack.neg) := rfl
  have hneg : x.toModel.unpack.neg.neg = x.toModel.unpack := by
    cases x.toModel.unpack with
    | notANumber => rfl
    | infinity s => cases s <;> rfl
    | zero s => cases s <;> rfl
    | finite s m e hm => cases s <;> rfl
  rw [hresult, unpack_neg, hneg]
  exact ofModel_pack_unpack x

theorem IsZero.mul (hz : IsZero z) (hx : HasValue x b) : IsZero (z * x) := by
  have hproduct := hz.hasValue.mul hx
  rw [zero_mul] at hproduct
  exact (hproduct hasValue_zero.isRepresentable).isZero

theorem HasValue.mul_isZero (hx : HasValue x a) (hz : IsZero z) : IsZero (x * z) := by
  have hproduct := hx.mul hz.hasValue
  rw [mul_zero] at hproduct
  exact (hproduct hasValue_zero.isRepresentable).isZero

theorem HasValue.add_isZero (hx : HasValue x a) (hz : IsZero z) : HasValue (x + z) a := by
  have hsum := hx.add hz.hasValue
  rw [add_zero] at hsum
  exact hsum hx.isRepresentable

theorem IsZero.div (hz : IsZero z) (hx : HasValue x b) (hb : b ≠ 0) : IsZero (z / x) := by
  have hquotient := hz.hasValue.div hx hb
  rw [zero_div] at hquotient
  exact (hquotient hasValue_zero.isRepresentable).isZero

theorem IsZero.add (hz : IsZero z) (x : Float) : SameNumber (x + z) x := by
  rcases hz with ⟨s, hs⟩
  have hsum : x + z =
      .ofModel (.pack (UnpackedFloat.add Format.binary64 x.toModel.unpack (.zero s))) := by
    rw [← hs]
    rfl
  have hself := ofModel_pack_unpack x
  unfold SameNumber
  rw [hsum]
  cases hunpack : x.toModel.unpack with
  | notANumber =>
      rw [hunpack] at hself
      exact Or.inl hself
  | infinity t =>
      rw [hunpack] at hself
      exact Or.inl hself
  | zero t =>
      refine Or.inr ⟨?_, t, hunpack⟩
      cases t <;> cases s <;> exact isZero_ofModel_pack _
  | finite t m e hm =>
      rw [hunpack] at hself
      exact Or.inl hself

theorem IsZero.add_comm (hz : IsZero z) (x : Float) : z + x = x + z := by
  rcases hz with ⟨s, hs⟩
  show Float.ofModel (.pack (UnpackedFloat.add _ z.toModel.unpack x.toModel.unpack)) =
    .ofModel (.pack (UnpackedFloat.add _ x.toModel.unpack z.toModel.unpack))
  rw [hs]
  cases x.toModel.unpack with
  | notANumber => rfl
  | infinity t => rfl
  | zero t => cases s <;> cases t <;> rfl
  | finite t m e hm => rfl

theorem sub_eq_add_negated (x y : Float) : x - y = x + -y := by
  show Float.ofModel (.pack (UnpackedFloat.sub _ x.toModel.unpack y.toModel.unpack)) =
    .ofModel (.pack (UnpackedFloat.add _ x.toModel.unpack (-y).toModel.unpack))
  rw [unpack_neg, sub_eq_add]

theorem IsZero.sub (hz : IsZero z) (x : Float) : SameNumber (x - z) x := by
  have hneg : IsZero (-z) := by
    rcases hz with ⟨s, hs⟩
    exact ⟨-s, by rw [unpack_neg, hs]; rfl⟩
  rw [sub_eq_add_negated]
  exact hneg.add x

theorem SameNumber.sub (h : SameNumber y w) (x : Float) : SameNumber (x - y) (x - w) := by
  rcases h with rfl | ⟨hy, hw⟩
  · exact Or.inl rfl
  · exact (hy.sub x).trans (hw.sub x).symm

theorem SameNumber.sub_right (h : SameNumber x y) (w : Float) : SameNumber (x - w) (y - w) := by
  rcases h with rfl | ⟨hx, hy⟩
  · exact Or.inl rfl
  · rw [sub_eq_add_negated, sub_eq_add_negated, hx.add_comm, hy.add_comm]
    exact (hx.add (-w)).trans (hy.add (-w)).symm

theorem SameNumber.div (h : SameNumber x y) (hw : HasValue w b) (hb : b ≠ 0) :
    SameNumber (x / w) (y / w) := by
  rcases h with rfl | ⟨hx, hy⟩
  · exact Or.inl rfl
  · exact Or.inr ⟨hx.div hw hb, hy.div hw hb⟩

theorem SameNumber.cell? (h : SameNumber x y) (count : Nat) :
    Binary64.cell? x count = Binary64.cell? y count := by
  rcases h with rfl | ⟨⟨s, hs⟩, ⟨s', hs'⟩⟩
  · rfl
  · have hle : ∀ {x : Float}, IsZero x → (0.0 : Float) ≤ x := fun hx =>
      (hasValue_zero.le_iff hx.hasValue).mpr le_rfl
    have hlt : x < Float.ofNat count ↔ y < Float.ofNat count := by
      show decide (x.toModel < _) = true ↔ decide (y.toModel < _) = true
      rw [decide_eq_true_iff, decide_eq_true_iff]
      show (x.toModel.unpack.compare _ == some .lt) = true ↔
        (y.toModel.unpack.compare _ == some .lt) = true
      rw [hs, hs']
      cases (Float.ofNat count).toModel.unpack with
      | notANumber => exact Iff.rfl
      | infinity t => cases t <;> exact Iff.rfl
      | zero t => exact Iff.rfl
      | finite t m e hm => cases t <;> exact Iff.rfl
    have htruncated : x.toUInt64 = y.toUInt64 := by
      show UInt64.ofNatClamp (x.toModel.unpack.toInt 0 (UInt64.size - 1)).toNat =
        UInt64.ofNatClamp (y.toModel.unpack.toInt 0 (UInt64.size - 1)).toNat
      rw [hs, hs']
      rfl
    unfold Binary64.cell?
    simp only [hle ⟨s, hs⟩, hle ⟨s', hs'⟩, true_and, hlt, htruncated]

end

end Binary64
end TileAudit
