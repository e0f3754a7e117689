import Mathlib.Data.List.Basic
import TileAudit.Grid.Address
import TileAudit.Proofs.Text.Numeral

/-!
# Addresses as arguments

An argument names a tile by three numerals between two slashes. What is read of it follows from how
a text is cut at its slashes and how a numeral is read, and so does the fault of one that is
refused.
-/

namespace TileAudit

section

variable {ε α β : Type} {step : Except ε α} {next : α → Except ε β}

theorem bind_eq_ok_iff {b : β} : step >>= next = .ok b ↔ ∃ a, step = .ok a ∧ next a = .ok b := by
  cases step with
  | ok a =>
      show next a = .ok b ↔ _
      simp
  | error fault => exact iff_of_false (fun h => by cases h) (by simp)

theorem bind_eq_error_iff {fault : ε} :
    step >>= next = .error fault ↔
      step = .error fault ∨ ∃ a, step = .ok a ∧ next a = .error fault := by
  cases step with
  | ok a =>
      show next a = .error fault ↔ _
      simp
  | error first =>
      show Except.error first = .error fault ↔ _
      simp

end

namespace TileAddress

open Numeral (IsNumeral IsRefused)

section

variable {separator : Char} {text : List Char}

theorem splitOnChar_eq_splitOn (separator : Char) (text : List Char) :
    splitOnChar separator text = text.splitOn separator := by
  induction text with
  | nil => rfl
  | cons c rest ih =>
      rw [splitOnChar, List.splitOn_cons_eq_if_modifyHead, ih]
      by_cases hc : c = separator
      · rw [if_pos hc, if_pos (beq_iff_eq.mpr hc)]
      · rw [if_neg hc, if_neg (mt beq_iff_eq.mp hc)]
        cases hpieces : rest.splitOn separator with
        | nil => exact absurd hpieces (List.splitOn_ne_nil separator rest)
        | cons piece pieces => rfl

theorem not_mem_of_mem_splitOn {piece : List Char} (h : piece ∈ text.splitOn separator) :
    separator ∉ piece := by
  induction text generalizing piece with
  | nil =>
      rw [List.splitOn_nil, List.mem_singleton] at h
      rw [h]
      exact List.not_mem_nil
  | cons c rest ih =>
      rw [List.splitOn_cons_eq_if_modifyHead] at h
      by_cases hc : c = separator
      · rw [if_pos (beq_iff_eq.mpr hc)] at h
        rcases List.mem_cons.mp h with rfl | hrest
        · exact List.not_mem_nil
        · exact ih hrest
      · rw [if_neg (mt beq_iff_eq.mp hc)] at h
        cases hpieces : rest.splitOn separator with
        | nil => exact absurd hpieces (List.splitOn_ne_nil separator rest)
        | cons first pieces =>
            rw [hpieces, List.modifyHead_cons] at h
            have hfirst : separator ∉ first := ih (by rw [hpieces]; exact List.mem_cons_self)
            rcases List.mem_cons.mp h with rfl | hmore
            · exact List.not_mem_cons_of_ne_of_not_mem (Ne.symm hc) hfirst
            · exact ih (by rw [hpieces]; exact List.mem_cons_of_mem _ hmore)

theorem length_splitOn (separator : Char) (text : List Char) :
    (text.splitOn separator).length = text.count separator + 1 := by
  induction text with
  | nil => rfl
  | cons c rest ih =>
      rw [List.splitOn_cons_eq_if_modifyHead]
      by_cases hc : c = separator
      · rw [if_pos (beq_iff_eq.mpr hc), List.length_cons, ih, hc, List.count_cons_self]
      · rw [if_neg (mt beq_iff_eq.mp hc), List.length_modifyHead, ih, List.count_cons_of_ne hc]

end

/-!
## Parts of an argument

The parts are read from the left, and the first one that is no numeral decides about the fault.
-/

/-- An argument that has exactly two slashes, with the parts around them. -/
structure HasParts (s : String) (z x y : List Char) : Prop where
  text : s.toList = z ++ '/' :: (x ++ '/' :: y)
  zoom : '/' ∉ z
  col : '/' ∉ x
  row : '/' ∉ y

/-- The fault of the first part that is no numeral of 32 bits. -/
inductive FirstFault : List (List Char) → Fault → Prop where
  | here {part : List Char} {rest : List (List Char)} {fault : Numeral.Fault} :
      IsRefused Numeral.limit32 part fault →
        FirstFault (part :: rest) (.part (String.ofList part) fault)
  | later {part : List Char} {rest : List (List Char)} {fault : Fault} {n : Nat} :
      IsNumeral part n → n ≤ Numeral.limit32 → FirstFault rest fault →
        FirstFault (part :: rest) fault

section

variable {s : String} {z x y part : List Char} {fault : Fault}

theorem splitOnChar_eq_parts_iff : splitOnChar '/' s.toList = [z, x, y] ↔ HasParts s z x y := by
  rw [splitOnChar_eq_splitOn]
  constructor
  · intro h
    have htext : ['/'].intercalate (s.toList.splitOn '/') = s.toList :=
      List.intercalate_splitOn '/'
    have hpiece : ∀ piece ∈ [z, x, y], '/' ∉ piece := by
      intro piece hpiece
      rw [← h] at hpiece
      exact not_mem_of_mem_splitOn hpiece
    rw [h] at htext
    exact ⟨by simpa using htext.symm, hpiece z (by simp), hpiece x (by simp), hpiece y (by simp)⟩
  · intro h
    rw [h.text, List.splitOn_append_cons_self_of_not_mem h.zoom,
      List.splitOn_append_cons_self_of_not_mem h.col, List.splitOn_eq_singleton h.row]

theorem exists_parts_iff : (∃ z x y, HasParts s z x y) ↔ s.toList.count '/' = 2 := by
  have hlength := length_splitOn '/' s.toList
  rw [← splitOnChar_eq_splitOn] at hlength
  simp only [← splitOnChar_eq_parts_iff]
  rw [← List.length_eq_three, hlength]
  omega

theorem toNat_le_limit (value : UInt32) : value.toNat ≤ Numeral.limit32 :=
  Nat.le_of_lt_succ value.toNat_lt

theorem toNat_ofNat {n : Nat} (h : n ≤ Numeral.limit32) : (UInt32.ofNat n).toNat = n :=
  UInt32.toNat_ofNat_of_lt (Nat.lt_succ_of_le h)

theorem readPart_eq_ok_iff {value : UInt32} :
    readPart part = .ok value ↔ IsNumeral part value.toNat := by
  unfold readPart
  cases hread : Numeral.readNat Numeral.limit32 part with
  | ok n =>
      rcases Numeral.readNat_eq_ok_iff.mp hread with ⟨hnumeral, hle⟩
      constructor
      · intro h
        cases h
        rw [toNat_ofNat hle]
        exact hnumeral
      · intro h
        have hvalue := Numeral.readNat_eq_ok_iff.mpr ⟨h, toNat_le_limit value⟩
        rw [hread, Except.ok.injEq] at hvalue
        subst hvalue
        exact congrArg Except.ok UInt32.ofNat_toNat
  | error reason =>
      refine iff_of_false (fun h => by cases h) fun h => ?_
      rw [Numeral.readNat_eq_ok_iff.mpr ⟨h, toNat_le_limit value⟩] at hread
      cases hread

theorem readPart_eq_error_iff :
    readPart part = .error fault ↔
      ∃ reason, IsRefused Numeral.limit32 part reason ∧
        fault = .part (String.ofList part) reason := by
  unfold readPart
  simp only [← Numeral.readNat_eq_error_iff]
  cases Numeral.readNat Numeral.limit32 part with
  | ok n => exact iff_of_false (fun h => by cases h) (by simp)
  | error reason => simp [eq_comm]

theorem exists_readPart_iff :
    (∃ value, readPart part = .ok value) ↔ ∃ n, IsNumeral part n ∧ n ≤ Numeral.limit32 := by
  simp only [readPart_eq_ok_iff]
  constructor
  · rintro ⟨value, hnumeral⟩
    exact ⟨value.toNat, hnumeral, toNat_le_limit value⟩
  · rintro ⟨n, hnumeral, hle⟩
    refine ⟨UInt32.ofNat n, ?_⟩
    rw [toNat_ofNat hle]
    exact hnumeral

theorem not_firstFault_nil : ¬ FirstFault [] fault := by
  intro h
  cases h

theorem firstFault_cons_iff {rest : List (List Char)} :
    FirstFault (part :: rest) fault ↔
      readPart part = .error fault ∨
        (∃ value, readPart part = .ok value) ∧ FirstFault rest fault := by
  rw [readPart_eq_error_iff, exists_readPart_iff]
  constructor
  · intro h
    cases h with
    | here hrefused => exact Or.inl ⟨_, hrefused, rfl⟩
    | later hnumeral hle hrest => exact Or.inr ⟨⟨_, hnumeral, hle⟩, hrest⟩
  · rintro (⟨reason, hrefused, rfl⟩ | ⟨⟨n, hnumeral, hle⟩, hrest⟩)
    · exact .here hrefused
    · exact .later hnumeral hle hrest

theorem HasParts.ofArgument_eq (h : HasParts s z x y) :
    ofArgument s = do
      let zoom ← readPart z
      let col ← readPart x
      let row ← readPart y
      return ⟨zoom, col, row⟩ := by
  unfold ofArgument
  rw [splitOnChar_eq_parts_iff.mpr h]

theorem HasParts.ofArgument_eq_ok_iff (h : HasParts s z x y) {tile : TileAddress} :
    ofArgument s = .ok tile ↔
      IsNumeral z tile.zoom.toNat ∧ IsNumeral x tile.col.toNat ∧ IsNumeral y tile.row.toNat := by
  rw [h.ofArgument_eq]
  simp only [← readPart_eq_ok_iff, bind_eq_ok_iff]
  constructor
  · rintro ⟨zoom, hzoom, col, hcol, row, hrow, htile⟩
    cases htile
    exact ⟨hzoom, hcol, hrow⟩
  · rintro ⟨hzoom, hcol, hrow⟩
    exact ⟨_, hzoom, _, hcol, _, hrow, rfl⟩

theorem HasParts.ofArgument_eq_error_iff (h : HasParts s z x y) :
    ofArgument s = .error fault ↔ FirstFault [z, x, y] fault := by
  have hnever : ∀ tile, (pure tile : Except Fault TileAddress) ≠ .error fault :=
    fun _ hpure => by cases hpure
  rw [h.ofArgument_eq]
  simp only [firstFault_cons_iff, bind_eq_error_iff, not_firstFault_nil, hnever, and_false,
    exists_false, or_false, exists_and_right]

theorem ofArgument_of_count_ne (h : s.toList.count '/' ≠ 2) :
    ofArgument s = .error (.shape s) := by
  unfold ofArgument
  split
  · next z x y hparts =>
      exact absurd (exists_parts_iff.mp ⟨z, x, y, splitOnChar_eq_parts_iff.mp hparts⟩) h
  · rfl

theorem readPart_numeral (n : UInt32) : readPart (toString n.toNat).toList = .ok n :=
  readPart_eq_ok_iff.mpr (Numeral.isNumeral_toString n.toNat)

theorem hasParts_argument (tile : TileAddress) :
    HasParts tile.argument (toString tile.zoom.toNat).toList (toString tile.col.toNat).toList
      (toString tile.row.toNat).toList where
  text := by simp [argument]
  zoom := Numeral.not_mem_toString rfl _
  col := Numeral.not_mem_toString rfl _
  row := Numeral.not_mem_toString rfl _

end

theorem ofArgument_eq_ok_iff (s : String) (tile : TileAddress) :
    ofArgument s = .ok tile ↔
      ∃ z x y, HasParts s z x y ∧ IsNumeral z tile.zoom.toNat ∧ IsNumeral x tile.col.toNat ∧
        IsNumeral y tile.row.toNat := by
  constructor
  · intro h
    by_cases hcount : s.toList.count '/' = 2
    · rcases exists_parts_iff.mpr hcount with ⟨z, x, y, hparts⟩
      exact ⟨z, x, y, hparts, hparts.ofArgument_eq_ok_iff.mp h⟩
    · rw [ofArgument_of_count_ne hcount] at h
      cases h
  · rintro ⟨z, x, y, hparts, hnumerals⟩
    exact hparts.ofArgument_eq_ok_iff.mpr hnumerals

theorem exists_ofArgument_eq_ok_iff (s : String) :
    (∃ tile, ofArgument s = .ok tile) ↔
      ∃ z x y zoom col row, HasParts s z x y ∧ (IsNumeral z zoom ∧ zoom ≤ 4294967295) ∧
        (IsNumeral x col ∧ col ≤ 4294967295) ∧ (IsNumeral y row ∧ row ≤ 4294967295) := by
  simp only [ofArgument_eq_ok_iff]
  constructor
  · rintro ⟨tile, z, x, y, hparts, hzoom, hcol, hrow⟩
    exact ⟨z, x, y, _, _, _, hparts, ⟨hzoom, toNat_le_limit _⟩, ⟨hcol, toNat_le_limit _⟩, hrow,
      toNat_le_limit _⟩
  · rintro ⟨z, x, y, zoom, col, row, hparts, ⟨hz, hzoom⟩, ⟨hx, hcol⟩, hy, hrow⟩
    refine ⟨⟨UInt32.ofNat zoom, UInt32.ofNat col, UInt32.ofNat row⟩, z, x, y, hparts, ?_⟩
    dsimp only
    rw [toNat_ofNat hzoom, toNat_ofNat hcol, toNat_ofNat hrow]
    exact ⟨hz, hx, hy⟩

theorem ofArgument_eq_error_iff (s : String) (fault : Fault) :
    ofArgument s = .error fault ↔
      (s.toList.count '/' ≠ 2 ∧ fault = .shape s) ∨
        ∃ z x y, HasParts s z x y ∧ FirstFault [z, x, y] fault := by
  constructor
  · intro h
    by_cases hcount : s.toList.count '/' = 2
    · rcases exists_parts_iff.mpr hcount with ⟨z, x, y, hparts⟩
      exact Or.inr ⟨z, x, y, hparts, hparts.ofArgument_eq_error_iff.mp h⟩
    · rw [ofArgument_of_count_ne hcount] at h
      cases h
      exact Or.inl ⟨hcount, rfl⟩
  · rintro (⟨hcount, rfl⟩ | ⟨z, x, y, hparts, hfault⟩)
    · exact ofArgument_of_count_ne hcount
    · exact hparts.ofArgument_eq_error_iff.mpr hfault

theorem ofArgument_argument (tile : TileAddress) : ofArgument tile.argument = .ok tile := by
  refine (hasParts_argument tile).ofArgument_eq_ok_iff.mpr ⟨?_, ?_, ?_⟩
  · exact Numeral.isNumeral_toString _
  · exact Numeral.isNumeral_toString _
  · exact Numeral.isNumeral_toString _

/-- An argument is read when it is three numerals between exactly two slashes, each of a number of
32 bits, and then these are the zoom level, the column and the row. Every other argument is refused:
for its shape when it has more or fewer parts, and else for the first of its bad parts. The argument
of an address is read as that address. -/
theorem ofArgument_reads_numerals :
    (∀ s tile, ofArgument s = .ok tile ↔
      ∃ z x y, HasParts s z x y ∧ IsNumeral z tile.zoom.toNat ∧ IsNumeral x tile.col.toNat ∧
        IsNumeral y tile.row.toNat) ∧
    (∀ s, (∃ tile, ofArgument s = .ok tile) ↔
      ∃ z x y zoom col row, HasParts s z x y ∧ (IsNumeral z zoom ∧ zoom ≤ 4294967295) ∧
        (IsNumeral x col ∧ col ≤ 4294967295) ∧ (IsNumeral y row ∧ row ≤ 4294967295)) ∧
    (∀ s fault, ofArgument s = .error fault ↔
      (s.toList.count '/' ≠ 2 ∧ fault = .shape s) ∨
        ∃ z x y, HasParts s z x y ∧ FirstFault [z, x, y] fault) ∧
    ∀ tile, ofArgument tile.argument = .ok tile :=
  ⟨ofArgument_eq_ok_iff, exists_ofArgument_eq_ok_iff, ofArgument_eq_error_iff, ofArgument_argument⟩

example : ofArgument "+0/007/4294967295" = .ok ⟨0, 7, 4294967295⟩ := by decide +kernel

example : ofArgument "1/4294967296x/-2" = .error (.part "4294967296x" .tooLarge) := by
  decide +kernel

end TileAddress
end TileAudit
