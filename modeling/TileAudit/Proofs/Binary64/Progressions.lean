import TileAudit.Proofs.Binary64.Order

/-!
# Coordinates in order

A sequence of coordinates that is computed from the natural numbers by rounded lines proceeds in one
direction: where two of its coordinates are finite, all between them are finite and lie between
them. So the cells of the coordinates are named in order, and none is missed between two that are
named. A cell that is named is one of the cells, however many there are.
-/

namespace TileAudit
namespace Binary64

open Float.Model Float.Model.UnpackedFloat

/-!
## Cells of any number

The number of cells may be rounded when a coordinate is compared with it, but this never adds a
coordinate beyond the last cell.
-/

section

variable {x m y : Float} {a b c : ℚ} {count n n' : Nat}

theorem isFinite_of_cell? (h : cell? x count = some n) : x.isFinite = true := by
  have hzero : (0.0 : Float).toModel.unpack = .zero .positive := rfl
  unfold cell? at h
  split at h
  case isFalse => cases h
  case isTrue hin =>
    rcases hin with ⟨hlow, hhigh⟩
    change decide ((0.0 : Float).toModel ≤ x.toModel) = true at hlow
    change decide (x.toModel < (Float.ofNat count).toModel) = true at hhigh
    rw [decide_eq_true_iff] at hlow hhigh
    change ((0.0 : Float).toModel.unpack.compare x.toModel.unpack).any (·.isLE) = true at hlow
    change (x.toModel.unpack.compare (Float.ofNat count).toModel.unpack == some .lt) = true at hhigh
    show x.toModel.unpack.isFinite = true
    rw [hzero] at hlow
    cases hunpack : x.toModel.unpack with
    | notANumber =>
        rw [hunpack] at hlow
        cases hlow
    | infinity s =>
        rw [hunpack] at hlow hhigh
        cases s with
        | negative => cases hlow
        | positive =>
            -- Nothing is above the positive infinity.
            exfalso
            revert hhigh
            cases (Float.ofNat count).toModel.unpack with
            | notANumber => exact Bool.false_ne_true
            | infinity t => cases t <;> exact Bool.false_ne_true
            | zero t => exact Bool.false_ne_true
            | finite t k e hk => exact Bool.false_ne_true
    | zero s => rfl
    | finite s k e hk => rfl

theorem exists_limit (count : Nat) :
    ∃ limit, IsRounded (Float.ofNat count) count limit ∧ ∀ {x a}, HasValue x a →
      cell? x count =
        if 0 ≤ a ∧ a < limit then some (min ⌊a⌋₊ (UInt64.size - 1)) else none := by
  rcases exists_isRounded_ofNat count with ⟨limit, hlimit⟩
  exact ⟨limit, hlimit, fun hx => hx.cell?_of_limit (hlimit.lt_iff hx)⟩

/-- A cell that is named is one of the cells: rounding their number never adds a coordinate that
lies beyond the last one. -/
theorem cell?_lt (h : cell? x count = some n) : n < count := by
  rcases hasValue_of_isFinite (isFinite_of_cell? h) with ⟨a, hx⟩
  rcases exists_limit count with ⟨limit, hlimit, hcell⟩
  rw [hcell hx] at h
  split at h
  case isFalse => cases h
  case isTrue hin =>
    have hn : min ⌊a⌋₊ (UInt64.size - 1) = n := Option.some.inj h
    have hfloor : ⌊a⌋₊ < count := by
      by_contra hnot
      have hcount : (count : ℚ) ≤ a := (Nat.le_floor_iff hin.1).mp (not_lt.mp hnot)
      have hlow := hlimit.nearest.le hx.isRepresentable.onGrid hcount
      exact absurd hin.2 (not_lt.mpr hlow)
    omega

theorem exists_cell?_between (hx : HasValue x a) (hm : HasValue m b) (hy : HasValue y c)
    (hlow : a ≤ b) (hhigh : b ≤ c) (hn : cell? x count = some n) (hn' : cell? y count = some n') :
    ∃ k, cell? m count = some k ∧ n ≤ k ∧ k ≤ n' := by
  rcases exists_limit count with ⟨limit, _, hcell⟩
  rw [hcell hx] at hn
  rw [hcell hy] at hn'
  rw [hcell hm]
  split at hn
  case isFalse => cases hn
  case isTrue hx_in =>
    split at hn'
    case isFalse => cases hn'
    case isTrue hy_in =>
      have hm_in : 0 ≤ b ∧ b < limit :=
        ⟨le_trans hx_in.1 hlow, lt_of_le_of_lt hhigh hy_in.2⟩
      rw [if_pos hm_in]
      refine ⟨_, rfl, ?_, ?_⟩
      · rw [← Option.some.inj hn]
        exact min_le_min_right _ (Nat.floor_le_floor hlow)
      · rw [← Option.some.inj hn']
        exact min_le_min_right _ (Nat.floor_le_floor hhigh)

end

/-!
## Sequences that proceed

A sequence proceeds when its finite coordinates are consecutive and in order. The natural numbers
do, and every rounded line keeps or reverses the direction.
-/

/-- The finite coordinates of a sequence are consecutive, and proceed upward if `σ` is positive and
downward if it is negative. -/
structure Proceeds (σ : ℚ) (s : Nat → Float) : Prop where
  between : ∀ {i m j : Nat} {a b : ℚ}, i ≤ m → m ≤ j → HasValue (s i) a → HasValue (s j) b →
    ∃ c, HasValue (s m) c ∧ σ * a ≤ σ * c ∧ σ * c ≤ σ * b

theorem ofNat_eq_or_le {i j : Nat} (h : i ≤ j) {v w : ℚ}
    (hv : IsRounded (Float.ofNat i) i v) (hw : IsRounded (Float.ofNat j) j w) :
    Float.ofNat i = Float.ofNat j ∨ v ≤ w := by
  rcases h.lt_or_eq with hlt | rfl
  · have hcast : (i : ℚ) < j := by exact_mod_cast hlt
    exact Or.inr (hv.nearest.mono hw.nearest hv.onGrid hw.onGrid hcast)
  · exact Or.inl rfl

theorem proceeds_ofNat : Proceeds 1 Float.ofNat := by
  constructor
  intro i m j a b him hmj hi hj
  rcases exists_isRounded_ofNat i with ⟨u, hu⟩
  rcases exists_isRounded_ofNat m with ⟨v, hv⟩
  rcases exists_isRounded_ofNat j with ⟨w, hw⟩
  rcases hu.exists_between hv hw (ofNat_eq_or_le him hu hv)
    (ofNat_eq_or_le hmj hv hw) hi hj with ⟨c, hc, hac, hcb⟩
  refine ⟨c, hc, ?_, ?_⟩
  · rwa [one_mul, one_mul]
  · rwa [one_mul, one_mul]

theorem Proceeds.line {σ τ k d : ℚ} {s : Nat → Float} {f : Float → Float} (hs : Proceeds σ s)
    (hf : RoundsLine f k d) (hσ : σ ≠ 0) (hτ : τ ≠ 0) (hdirection : 0 ≤ σ * k * τ) :
    Proceeds τ (fun i => f (s i)) := by
  constructor
  intro i m j a' b' him hmj hi hj
  rcases hasValue_of_isFinite (hf.finite hi.isFinite) with ⟨a, ha⟩
  rcases hasValue_of_isFinite (hf.finite hj.isFinite) with ⟨b, hb⟩
  rcases hs.between him hmj ha hb with ⟨c, hc, hac, hcb⟩
  have hsquare : 0 < σ * σ := mul_self_pos.mpr hσ
  -- What the line does to the order of two coordinates, seen from the new direction.
  have horder : ∀ {p q : ℚ}, σ * p ≤ σ * q → τ * (k * p) ≤ τ * (k * q) := by
    intro p q hpq
    have hscaled := mul_le_mul_of_nonneg_left hpq hdirection
    have hleft : σ * k * τ * (σ * p) = σ * σ * (τ * (k * p)) := by ring
    have hright : σ * k * τ * (σ * q) = σ * σ * (τ * (k * q)) := by ring
    rw [hleft, hright] at hscaled
    exact le_of_mul_le_mul_left hscaled hsquare
  rcases lt_or_gt_of_ne hτ with hneg | hpos
  · have hcross : ∀ {p q : ℚ}, τ * p ≤ τ * q ↔ q ≤ p := mul_le_mul_left_of_neg hneg
    rcases hf.exists_between hb hc ha (hcross.mp (horder hcb)) (hcross.mp (horder hac)) hj hi with
      ⟨c', hc', hlow, hhigh⟩
    exact ⟨c', hc', hcross.mpr hhigh, hcross.mpr hlow⟩
  · have hcross : ∀ {p q : ℚ}, τ * p ≤ τ * q ↔ p ≤ q := mul_le_mul_iff_right₀ hpos
    rcases hf.exists_between ha hc hb (hcross.mp (horder hac)) (hcross.mp (horder hcb)) hi hj with
      ⟨c', hc', hlow, hhigh⟩
    exact ⟨c', hc', hcross.mpr hlow, hcross.mpr hhigh⟩

/-!
## Cells in order

The cells that the coordinates of such a sequence fall in are in order as well, and their indices
lie between two bounds.
-/

/-- The names of a sequence are consecutive, and each is related to the ones after it. -/
structure Runs (R : Nat → Nat → Prop) (names : Nat → Option Nat) : Prop where
  between : ∀ {i m j n n' : Nat}, i ≤ m → m ≤ j → names i = some n → names j = some n' →
    ∃ k, names m = some k ∧ R n k ∧ R k n'

section

variable {σ : ℚ} {s : Nat → Float}

theorem Proceeds.exists_values (h : Proceeds σ s) {count i m j n n' : Nat} (him : i ≤ m)
    (hmj : m ≤ j) (hn : cell? (s i) count = some n) (hn' : cell? (s j) count = some n') :
    ∃ a c b, HasValue (s i) a ∧ HasValue (s m) c ∧ HasValue (s j) b ∧
      σ * a ≤ σ * c ∧ σ * c ≤ σ * b := by
  rcases hasValue_of_isFinite (isFinite_of_cell? hn) with ⟨a, ha⟩
  rcases hasValue_of_isFinite (isFinite_of_cell? hn') with ⟨b, hb⟩
  rcases h.between him hmj ha hb with ⟨c, hc, hac, hcb⟩
  exact ⟨a, c, b, ha, hc, hb, hac, hcb⟩

theorem Proceeds.runs_of_pos (h : Proceeds σ s) (hσ : 0 < σ) (count : Nat) :
    Runs (· ≤ ·) (fun i => cell? (s i) count) := by
  constructor
  intro i m j n n' him hmj hn hn'
  rcases h.exists_values him hmj hn hn' with ⟨a, c, b, ha, hc, hb, hac, hcb⟩
  exact exists_cell?_between ha hc hb (le_of_mul_le_mul_left hac hσ)
    (le_of_mul_le_mul_left hcb hσ) hn hn'

theorem Proceeds.runs_of_neg (h : Proceeds σ s) (hσ : σ < 0) (count : Nat) :
    Runs (· ≥ ·) (fun i => cell? (s i) count) := by
  constructor
  intro i m j n n' him hmj hn hn'
  rcases h.exists_values him hmj hn hn' with ⟨a, c, b, ha, hc, hb, hac, hcb⟩
  have hbc : b ≤ c := (mul_le_mul_left_of_neg hσ).mp hcb
  have hca : c ≤ a := (mul_le_mul_left_of_neg hσ).mp hac
  rcases exists_cell?_between hb hc ha hbc hca hn' hn with ⟨k, hk, hlow, hhigh⟩
  exact ⟨k, hk, hhigh, hlow⟩

end

namespace Runs

variable {R : Nat → Nat → Prop} {names : Nat → Option Nat}

theorem rel (h : Runs R names) {i j n n' : Nat} (hij : i ≤ j) (hn : names i = some n)
    (hn' : names j = some n') : R n n' := by
  rcases h.between hij le_rfl hn hn' with ⟨k, hk, hrel, _⟩
  rw [hn'] at hk
  cases hk
  exact hrel

theorem exists_bounds (h : Runs R names) (size : Nat) :
    ∃ first last, ∀ i, i < size → ((names i).isSome ↔ first ≤ i ∧ i < last) := by
  obtain ⟨named, hnamed⟩ : ∃ named : Finset Nat, ∀ i, i ∈ named ↔ i < size ∧ (names i).isSome :=
    ⟨(Finset.range size).filter fun i => (names i).isSome, fun i => by
      rw [Finset.mem_filter, Finset.mem_range]⟩
  rcases named.eq_empty_or_nonempty with rfl | hsome
  · refine ⟨0, 0, ?_⟩
    intro i hi
    refine iff_of_false ?_ (by omega)
    intro hname
    exact absurd ((hnamed i).mpr ⟨hi, hname⟩) (Finset.notMem_empty i)
  · rcases Option.isSome_iff_exists.mp ((hnamed _).mp (named.min'_mem hsome)).2 with ⟨n, hn⟩
    rcases Option.isSome_iff_exists.mp ((hnamed _).mp (named.max'_mem hsome)).2 with ⟨n', hn'⟩
    refine ⟨named.min' hsome, named.max' hsome + 1, ?_⟩
    intro i hi
    constructor
    · intro hname
      have hmem := (hnamed i).mpr ⟨hi, hname⟩
      exact ⟨named.min'_le i hmem, Nat.lt_succ_of_le (named.le_max' i hmem)⟩
    · rintro ⟨hlow, hhigh⟩
      rcases h.between hlow (Nat.le_of_lt_succ hhigh) hn hn' with ⟨k, hk, _⟩
      rw [hk]
      rfl

end Runs

end Binary64
end TileAudit
