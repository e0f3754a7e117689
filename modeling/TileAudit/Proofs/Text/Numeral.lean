import Mathlib.Algebra.Group.Nat.Defs
import Mathlib.Data.List.TakeWhile
import TileAudit.Text.Numeral

/-!
# Numbers of numerals

A numeral is read digit by digit, most significant first. The zeros in front of it do not count, so
a number is read from its numerals of all widths, and different numbers never share a numeral. A
text that is refused is refused for what comes first in it.
-/

namespace TileAudit
namespace Numeral

def digitValue (c : Char) : Nat :=
  if c.isDigit then c.toNat - '0'.toNat else c.toNat - 'a'.toNat + 10

def valueOf (base : Nat) (digits : List Char) : Nat :=
  digits.foldl (fun value c => base * value + digitValue c) 0

theorem digitValue_digitChar {d : Nat} (h : d < 16) : digitValue d.digitChar = d := by
  have hall : ∀ d < 16, digitValue (Nat.digitChar d) = d := by decide
  exact hall d h

theorem valueOf_concat (base : Nat) (front : List Char) (c : Char) :
    valueOf base (front ++ [c]) = base * valueOf base front + digitValue c := by
  simp [valueOf]

theorem foldl_digitValue (base : Nat) (digits : List Char) (init : Nat) :
    digits.foldl (fun value c => base * value + digitValue c) init =
      base ^ digits.length * init + valueOf base digits := by
  induction digits generalizing init with
  | nil => simp [valueOf]
  | cons c rest ih =>
      have hfirst : valueOf base (c :: rest) =
          base ^ rest.length * digitValue c + valueOf base rest := by
        rw [← ih, valueOf, List.foldl_cons, Nat.mul_zero, Nat.zero_add]
      rw [List.foldl_cons, ih, hfirst, List.length_cons, Nat.pow_succ, Nat.mul_add,
        Nat.mul_assoc, Nat.add_assoc]

theorem valueOf_append (base : Nat) (front digits : List Char) :
    valueOf base (front ++ digits) =
      base ^ digits.length * valueOf base front + valueOf base digits := by
  rw [valueOf, List.foldl_append]
  exact foldl_digitValue base digits _

theorem valueOf_zeros (base count : Nat) : valueOf base (List.replicate count '0') = 0 := by
  induction count with
  | zero => rfl
  | succ count ih =>
      rw [List.replicate_succ', valueOf_concat, ih]
      rfl

theorem valueOf_padZeros (base width : Nat) (digits : List Char) :
    valueOf base (padZeros width digits) = valueOf base digits := by
  rw [padZeros, valueOf_append, valueOf_zeros, Nat.mul_zero, Nat.zero_add]

section

variable {base : Nat}

theorem valueOf_toDigits (hlow : 1 < base) (hhigh : base ≤ 16) (n : Nat) :
    valueOf base (Nat.toDigits base n) = n := by
  induction n using Nat.base_induction base hlow with
  | single m hm =>
      rw [Nat.toDigits_of_lt_base hm]
      simp [valueOf, digitValue_digitChar (Nat.lt_of_lt_of_le hm hhigh)]
  | digit m k hk hm ih =>
      rw [← Nat.toDigits_append_toDigits hlow hm hk, Nat.toDigits_of_lt_base hk, valueOf_concat, ih,
        digitValue_digitChar (Nat.lt_of_lt_of_le hk hhigh)]

theorem exists_digitChar_of_mem_toDigits (hlow : 1 < base) (hhigh : base ≤ 16) {n : Nat} {c : Char}
    (h : c ∈ Nat.toDigits base n) : ∃ d < 16, c = Nat.digitChar d := by
  induction n using Nat.base_induction base hlow with
  | single m hm =>
      rw [Nat.toDigits_of_lt_base hm, List.mem_singleton] at h
      exact ⟨m, Nat.lt_of_lt_of_le hm hhigh, h⟩
  | digit m k hk hm ih =>
      rw [← Nat.toDigits_append_toDigits hlow hm hk, Nat.toDigits_of_lt_base hk] at h
      rcases List.mem_append.mp h with hfront | hlast
      · exact ih hfront
      · exact ⟨k, Nat.lt_of_lt_of_le hk hhigh, List.mem_singleton.mp hlast⟩

end

theorem toList_decimal (width n : Nat) :
    (decimal width n).toList = padZeros width (Nat.toDigits 10 n) :=
  String.toList_ofList

theorem toList_hexadecimal (width n : Nat) :
    (hexadecimal width n).toList = padZeros width (Nat.toDigits 16 n) :=
  String.toList_ofList

theorem valueOf_decimal (width n : Nat) : valueOf 10 (decimal width n).toList = n := by
  rw [toList_decimal, valueOf_padZeros, valueOf_toDigits (by decide) (by decide)]

theorem valueOf_hexadecimal (width n : Nat) : valueOf 16 (hexadecimal width n).toList = n := by
  rw [toList_hexadecimal, valueOf_padZeros, valueOf_toDigits (by decide) (by decide)]

theorem decimal_injective {width n m : Nat} (h : decimal width n = decimal width m) : n = m := by
  rw [← valueOf_decimal width n, h, valueOf_decimal]

theorem hexadecimal_injective {width n m : Nat} (h : hexadecimal width n = hexadecimal width m) :
    n = m := by
  rw [← valueOf_hexadecimal width n, h, valueOf_hexadecimal]

theorem length_padZeros {width : Nat} {digits : List Char} (h : digits.length ≤ width) :
    (padZeros width digits).length = width := by
  rw [padZeros, List.length_append, List.length_replicate, Nat.sub_add_cancel h]

theorem length_decimal {width n : Nat} (hwidth : 0 < width) (h : n < 10 ^ width) :
    (decimal width n).toList.length = width := by
  rw [toList_decimal]
  exact length_padZeros ((Nat.length_toDigits_le_iff (by decide) hwidth).mpr h)

theorem isDigit_of_mem_decimal {width n : Nat} {c : Char} (h : c ∈ (decimal width n).toList) :
    c.isDigit = true := by
  rw [toList_decimal, padZeros] at h
  rcases List.mem_append.mp h with hzero | hdigit
  · rw [List.eq_of_mem_replicate hzero]
    rfl
  · exact Nat.isDigit_of_mem_toDigits (by decide) (by decide) hdigit

/-!
## Reading numerals

A text is read from the left, and its digits are read up to a limit: when those in front stand for
too much, what comes after them does not matter. The numerals of the numbers up to the limit are
read, and no other texts.
-/

def leadingDigits (text : List Char) : List Char :=
  text.takeWhile Char.isDigit

def unsigned : List Char → List Char
  | '+' :: rest => rest
  | text => text

structure IsDigits (digits : List Char) (n : Nat) : Prop where
  ne_nil : digits ≠ []
  isDigit : ∀ c ∈ digits, c.isDigit = true
  value : valueOf 10 digits = n

/-- A numeral of a number: digits, with a plus sign in front or without. -/
def IsNumeral (text : List Char) (n : Nat) : Prop :=
  IsDigits text n ∨ ∃ digits, text = '+' :: digits ∧ IsDigits digits n

/-- Why a text is no numeral of a number up to a limit. It is read from the left: when the digits in
front stand for too much, what comes after them does not matter. -/
inductive IsRefused (limit : Nat) (text : List Char) : Fault → Prop where
  | empty : text = [] → IsRefused limit text .empty
  | tooLarge : limit < valueOf 10 (leadingDigits (unsigned text)) → IsRefused limit text .tooLarge
  | badDigit : text ≠ [] → valueOf 10 (leadingDigits (unsigned text)) ≤ limit →
      (∀ n, ¬ IsNumeral text n) → IsRefused limit text .badDigit

theorem digit?_of_isDigit {c : Char} (h : c.isDigit = true) : digit? c = some (digitValue c) := by
  have hrange : '0' ≤ c ∧ c ≤ '9' := by
    rw [Char.isDigit, Bool.and_eq_true, decide_eq_true_eq, decide_eq_true_eq] at h
    exact h
  rw [digit?, digitValue, if_pos hrange, if_pos h]

theorem digit?_of_not_isDigit {c : Char} (h : ¬ c.isDigit = true) : digit? c = none := by
  have hrange : ¬ ('0' ≤ c ∧ c ≤ '9') := by
    rw [Char.isDigit, Bool.and_eq_true, decide_eq_true_eq, decide_eq_true_eq] at h
    exact h
  rw [digit?, if_neg hrange]

theorem le_foldl_digitValue (digits : List Char) (value : Nat) :
    value ≤ digits.foldl (fun value c => 10 * value + digitValue c) value := by
  rw [foldl_digitValue]
  exact Nat.le_trans (Nat.le_mul_of_pos_left _ (Nat.pow_pos (by decide))) (Nat.le_add_right _ _)

section

variable {limit n : Nat} {overflow fault : Fault} {text : List Char}

theorem readDigits_eq {value : Nat} (hvalue : value ≤ limit) :
    readDigits limit overflow value text =
      if limit < (leadingDigits text).foldl (fun value c => 10 * value + digitValue c) value then
        .error overflow
      else if leadingDigits text = text then
        .ok ((leadingDigits text).foldl (fun value c => 10 * value + digitValue c) value)
      else .error .badDigit := by
  induction text generalizing value with
  | nil =>
      have hwithin : ¬ limit < value := Nat.not_lt.mpr hvalue
      simp only [leadingDigits, List.takeWhile_nil, List.foldl_nil, if_neg hwithin, if_true]
      rfl
  | cons c rest ih =>
      by_cases hdigit : c.isDigit = true
      · have hleading : leadingDigits (c :: rest) = c :: leadingDigits rest :=
          List.takeWhile_cons_of_pos hdigit
        have hshift : value * 10 + digitValue c = 10 * value + digitValue c := by
          rw [Nat.mul_comm]
        rw [readDigits, digit?_of_isDigit hdigit, hleading, List.foldl_cons]
        dsimp only
        rw [hshift]
        simp only [List.cons.injEq, true_and]
        by_cases hwithin : 10 * value + digitValue c ≤ limit
        · rw [if_pos hwithin]
          exact ih hwithin
        · have hover := Nat.lt_of_lt_of_le (Nat.not_le.mp hwithin)
            (le_foldl_digitValue (leadingDigits rest) (10 * value + digitValue c))
          rw [if_neg hwithin, if_pos hover]
      · have hleading : leadingDigits (c :: rest) = [] := List.takeWhile_cons_of_neg hdigit
        have hwithin : ¬ limit < value := Nat.not_lt.mpr hvalue
        rw [readDigits, digit?_of_not_isDigit hdigit, hleading, List.foldl_nil, if_neg hwithin,
          if_neg (List.cons_ne_nil c rest).symm]

theorem readUnsigned_eq (limit : Nat) (text : List Char) :
    readUnsigned limit overflow text =
      if limit < valueOf 10 (leadingDigits text) then .error overflow
      else if text ≠ [] ∧ leadingDigits text = text then .ok (valueOf 10 (leadingDigits text))
      else .error .badDigit := by
  cases text with
  | nil => rfl
  | cons c rest =>
      rw [readUnsigned.eq_def]
      dsimp only
      rw [readDigits_eq (Nat.zero_le limit)]
      simp only [ne_eq, List.cons_ne_nil, not_false_eq_true, true_and]
      rfl

theorem readNat_of_ne_nil (h : text ≠ []) :
    readNat limit text = readUnsigned limit .tooLarge (unsigned text) := by
  unfold readNat
  split
  · exact absurd rfl h
  · rfl
  · next hplus =>
      rw [unsigned]
      exact hplus

theorem isDigits_iff :
    IsDigits text n ↔
      (text ≠ [] ∧ leadingDigits text = text) ∧ valueOf 10 (leadingDigits text) = n := by
  unfold leadingDigits
  constructor
  · rintro ⟨hne, hdigit, hvalue⟩
    have hall : text.takeWhile Char.isDigit = text := List.takeWhile_eq_self_iff.mpr hdigit
    exact ⟨⟨hne, hall⟩, by rw [hall, hvalue]⟩
  · rintro ⟨⟨hne, hall⟩, hvalue⟩
    rw [hall] at hvalue
    exact ⟨hne, List.takeWhile_eq_self_iff.mp hall, hvalue⟩

theorem isNumeral_iff : IsNumeral text n ↔ IsDigits (unsigned text) n := by
  unfold unsigned
  split
  · next rest =>
      constructor
      · rintro (hdigits | ⟨digits, hsign, hdigits⟩)
        · have hplus := hdigits.isDigit '+' List.mem_cons_self
          cases hplus
        · cases hsign
          exact hdigits
      · exact fun hdigits => Or.inr ⟨rest, rfl, hdigits⟩
  · next hplus =>
      constructor
      · rintro (hdigits | ⟨digits, rfl, _⟩)
        · exact hdigits
        · exact absurd rfl (hplus digits)
      · exact Or.inl

theorem readNat_eq_ok_iff : readNat limit text = .ok n ↔ IsNumeral text n ∧ n ≤ limit := by
  rw [isNumeral_iff, isDigits_iff]
  by_cases hempty : text = []
  · rw [hempty]
    exact iff_of_false (fun h => by cases h) fun h => h.1.1.1 rfl
  · rw [readNat_of_ne_nil hempty, readUnsigned_eq]
    by_cases hover : limit < valueOf 10 (leadingDigits (unsigned text))
    · rw [if_pos hover]
      refine iff_of_false (fun h => by cases h) ?_
      rintro ⟨⟨_, rfl⟩, hle⟩
      exact absurd hover (Nat.not_lt.mpr hle)
    · rw [if_neg hover]
      by_cases hdigits : unsigned text ≠ [] ∧ leadingDigits (unsigned text) = unsigned text
      · rw [if_pos hdigits, Except.ok.injEq]
        constructor
        · rintro rfl
          exact ⟨⟨hdigits, rfl⟩, Nat.not_lt.mp hover⟩
        · exact fun h => h.1.2
      · rw [if_neg hdigits]
        exact iff_of_false (fun h => by cases h) fun h => hdigits h.1.1

theorem readNat_eq_error_iff : readNat limit text = .error fault ↔ IsRefused limit text fault := by
  constructor
  · intro h
    by_cases hempty : text = []
    · rw [hempty] at h
      cases h
      exact .empty hempty
    · rw [readNat_of_ne_nil hempty, readUnsigned_eq] at h
      by_cases hover : limit < valueOf 10 (leadingDigits (unsigned text))
      · rw [if_pos hover] at h
        cases h
        exact .tooLarge hover
      · rw [if_neg hover] at h
        by_cases hdigits : unsigned text ≠ [] ∧ leadingDigits (unsigned text) = unsigned text
        · rw [if_pos hdigits] at h
          cases h
        · rw [if_neg hdigits] at h
          cases h
          refine .badDigit hempty (Nat.not_lt.mp hover) fun n hnumeral => hdigits ?_
          exact (isDigits_iff.mp (isNumeral_iff.mp hnumeral)).1
  · intro h
    cases h with
    | empty hempty =>
        rw [hempty]
        rfl
    | tooLarge hover =>
        have hne : text ≠ [] := by
          rintro rfl
          exact absurd hover (Nat.not_lt_zero limit)
        rw [readNat_of_ne_nil hne, readUnsigned_eq, if_pos hover]
    | badDigit hne hwithin hnone =>
        have hnot : ¬ (unsigned text ≠ [] ∧ leadingDigits (unsigned text) = unsigned text) :=
          fun hdigits => hnone _ (isNumeral_iff.mpr (isDigits_iff.mpr ⟨hdigits, rfl⟩))
        rw [readNat_of_ne_nil hne, readUnsigned_eq, if_neg (Nat.not_lt.mpr hwithin), if_neg hnot]

theorem isNumeral_toString (n : Nat) : IsNumeral (toString n).toList n := by
  rw [Nat.toString_eq_repr, Nat.toList_repr]
  refine Or.inl ⟨Nat.toDigits_ne_nil, ?_, valueOf_toDigits (by decide) (by decide) n⟩
  intro c hc
  exact Nat.isDigit_of_mem_toDigits (by decide) (by decide) hc

theorem not_mem_toString {c : Char} (h : c.isDigit = false) (n : Nat) :
    c ∉ (toString n).toList := by
  rw [Nat.toString_eq_repr, Nat.toList_repr]
  intro hc
  rw [Nat.isDigit_of_mem_toDigits (by decide) (by decide) hc] at h
  cases h

end

def IsSeparator (c : Char) : Prop :=
  ∀ d < 16, c ≠ Nat.digitChar d

theorem isSeparator_slash : IsSeparator '/' := by
  unfold IsSeparator
  decide

theorem isSeparator_point : IsSeparator '.' := by
  unfold IsSeparator
  decide

theorem IsSeparator.not_mem_padZeros {c : Char} (hc : IsSeparator c) {base : Nat} (hlow : 1 < base)
    (hhigh : base ≤ 16) (width n : Nat) : c ∉ padZeros width (Nat.toDigits base n) := by
  intro h
  rcases List.mem_append.mp h with hzero | hdigit
  · exact hc 0 (by decide) (List.eq_of_mem_replicate hzero)
  · rcases exists_digitChar_of_mem_toDigits hlow hhigh hdigit with ⟨d, hd, heq⟩
    exact hc d hd heq

theorem IsSeparator.not_mem_decimal {c : Char} (hc : IsSeparator c) (width n : Nat) :
    c ∉ (decimal width n).toList := by
  rw [toList_decimal]
  exact hc.not_mem_padZeros (by decide) (by decide) width n

theorem IsSeparator.not_mem_hexadecimal {c : Char} (hc : IsSeparator c) (width n : Nat) :
    c ∉ (hexadecimal width n).toList := by
  rw [toList_hexadecimal]
  exact hc.not_mem_padZeros (by decide) (by decide) width n

theorem padZeros_ne_nil {width base n : Nat} : padZeros width (Nat.toDigits base n) ≠ [] := by
  rw [padZeros]
  exact List.append_ne_nil_of_right_ne_nil _ Nat.toDigits_ne_nil

theorem decimal_ne_nil (width n : Nat) : (decimal width n).toList ≠ [] := by
  rw [toList_decimal]
  exact padZeros_ne_nil

end Numeral
end TileAudit
