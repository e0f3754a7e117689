import TileAudit.FileTree.PathText

/-!
# Names in path texts

A path that is joined to a directory has the names of the directory before its own,
whatever slashes the directory ends in. What a path says about its end is what its last
part says.
-/

namespace TileAudit
namespace PathText

theorem pieces_cons_slash {c : Char} (rest : List Char) (h : c = '/') :
    pieces (c :: rest) = [] :: pieces rest := by
  rw [pieces, if_pos h]

theorem pieces_ne_nil (text : List Char) : pieces text ≠ [] := by
  cases text with
  | nil => simp [pieces]
  | cons c rest =>
      by_cases hslash : c = '/'
      · simp [pieces_cons_slash rest hslash]
      · rw [pieces, if_neg hslash]
        cases pieces rest <;> simp

theorem pieces_cons_other {c : Char} {rest piece : List Char} {more : List (List Char)}
    (h : c ≠ '/') (hrest : pieces rest = piece :: more) :
    pieces (c :: rest) = (c :: piece) :: more := by
  rw [pieces, if_neg h, hrest]

theorem pieces_append_slash (left right : List Char) :
    pieces (left ++ '/' :: right) = pieces left ++ pieces right := by
  induction left with
  | nil => simp [pieces]
  | cons c rest ih =>
      rw [List.cons_append]
      by_cases hslash : c = '/'
      · rw [pieces_cons_slash _ hslash, pieces_cons_slash _ hslash, ih, List.cons_append]
      · cases hpieces : pieces rest with
        | nil => exact absurd hpieces (pieces_ne_nil rest)
        | cons piece more =>
            rw [hpieces, List.cons_append] at ih
            rw [pieces_cons_other hslash hpieces, pieces_cons_other hslash ih]
            rfl

theorem pieces_of_no_slash {text : List Char} (h : '/' ∉ text) : pieces text = [text] := by
  induction text with
  | nil => rfl
  | cons c rest ih =>
      have hc : c ≠ '/' := fun heq => h (heq ▸ List.mem_cons_self)
      have hrest : '/' ∉ rest := fun hmem => h (List.mem_cons_of_mem _ hmem)
      exact pieces_cons_other hc (ih hrest)

/-!
## Names of joined paths

A part of a path is neither empty nor divided; a name is a part that names an entry, and neither
"here" nor "above".
-/

theorem toList_isEmpty {path : String} (h : path.isEmpty = true) : path.toList = [] := by
  simpa using h

theorem exists_append_slash {path : String} (h : endsInSlash path = true) :
    ∃ front, path.toList = front ++ ['/'] := by
  unfold endsInSlash at h
  exact List.getLast?_eq_some_iff.mp (of_decide_eq_true h)

theorem names_join {left right : String} (hright : isAbsolute right = false) :
    names (join left right) = names left ++ names right := by
  unfold join
  rw [hright, if_neg Bool.false_ne_true]
  by_cases hempty : left.isEmpty = true
  · rw [hempty, Bool.true_or, if_pos rfl]
    simp [names, toList_isEmpty hempty, pieces]
  · rw [Bool.eq_false_iff.mpr hempty, Bool.false_or]
    by_cases hends : endsInSlash left = true
    · rcases exists_append_slash hends with ⟨front, hfront⟩
      rw [if_pos hends]
      unfold names
      rw [String.toList_append, hfront, List.append_assoc, List.singleton_append,
        pieces_append_slash, pieces_append_slash]
      simp [pieces]
    · rw [if_neg hends]
      unfold names
      have hslash : "/".toList = ['/'] := rfl
      rw [String.toList_append, String.toList_append, hslash, List.append_assoc,
        List.singleton_append, pieces_append_slash]
      simp

theorem isAbsolute_join {left right : String} (hright : isAbsolute right = false)
    (hleft : left.isEmpty = false) : isAbsolute (join left right) = isAbsolute left := by
  have hcons : left.toList ≠ [] := by
    intro hnil
    simp [← String.toList_eq_nil_iff, hnil] at hleft
  have happend : ∀ more : List Char, (left.toList ++ more).head? = left.toList.head? := by
    intro more
    cases hlist : left.toList with
    | nil => exact absurd hlist hcons
    | cons c rest => rfl
  unfold join
  rw [hright, if_neg Bool.false_ne_true, hleft, Bool.false_or]
  by_cases hends : endsInSlash left = true
  · rw [if_pos hends]
    simp only [isAbsolute, String.toList_append, happend]
  · rw [if_neg hends]
    simp only [isAbsolute, String.toList_append, List.append_assoc, happend]

structure IsPart (part : String) : Prop where
  ne_empty : part.toList ≠ []
  no_slash : '/' ∉ part.toList

namespace IsPart

variable {part : String}

theorem isAbsolute_eq (h : IsPart part) : isAbsolute part = false := by
  apply decide_eq_false
  intro hslash
  exact h.no_slash (List.mem_of_mem_head? hslash)

theorem getLast?_append_ne (h : IsPart part) (front : List Char) :
    (front ++ part.toList).getLast? ≠ some '/' := by
  intro hslash
  rw [List.getLast?_append, List.getLast?_eq_some_getLast h.ne_empty, Option.some_or] at hslash
  apply h.no_slash
  rw [← Option.some.inj hslash]
  exact List.getLast_mem h.ne_empty

theorem endsInSlash_join (h : IsPart part) (dir : String) :
    endsInSlash (join dir part) = false := by
  unfold join
  rw [h.isAbsolute_eq, if_neg Bool.false_ne_true]
  by_cases hglue : (dir.isEmpty || endsInSlash dir) = true
  · rw [if_pos hglue]
    simp only [endsInSlash, String.toList_append, h.getLast?_append_ne, decide_false]
  · rw [if_neg hglue]
    simp only [endsInSlash, String.toList_append, h.getLast?_append_ne, decide_false]

theorem join_isEmpty (h : IsPart part) (dir : String) : (join dir part).isEmpty = false := by
  have hright : ∀ front : String, (front ++ part).isEmpty = false := by
    intro front
    cases hempty : (front ++ part).isEmpty with
    | false => rfl
    | true =>
        have hlist := toList_isEmpty hempty
        rw [String.toList_append] at hlist
        exact absurd (List.append_eq_nil_iff.mp hlist).2 h.ne_empty
  unfold join
  rw [h.isAbsolute_eq, if_neg Bool.false_ne_true]
  by_cases hglue : (dir.isEmpty || endsInSlash dir) = true
  · rw [if_pos hglue, hright]
  · rw [if_neg hglue, hright]

end IsPart

structure IsName (name : String) : Prop where
  ne_empty : name.toList ≠ []
  no_slash : '/' ∉ name.toList
  ne_point : name ≠ "."
  ne_points : name ≠ ".."

namespace IsName

variable {name : String}

theorem names_eq (h : IsName name) : names name = [name] := by
  have hsome : name.toList.isEmpty = false := by
    cases hlist : name.toList with
    | nil => exact absurd hlist h.ne_empty
    | cons c rest => rfl
  unfold names
  rw [pieces_of_no_slash h.no_slash]
  simp [hsome]

theorem isPart (h : IsName name) : IsPart name :=
  ⟨h.ne_empty, h.no_slash⟩

theorem isAbsolute_eq (h : IsName name) : isAbsolute name = false :=
  h.isPart.isAbsolute_eq

theorem names_join_eq (h : IsName name) (dir : String) :
    names (join dir name) = names dir ++ [name] := by
  rw [names_join h.isAbsolute_eq, h.names_eq]

theorem join_isEmpty (h : IsName name) (dir : String) : (join dir name).isEmpty = false :=
  h.isPart.join_isEmpty dir

theorem endsInSlash_join (h : IsName name) (dir : String) :
    endsInSlash (join dir name) = false :=
  h.isPart.endsInSlash_join dir

theorem wantsDirectory_join (h : IsName name) (dir : String) :
    wantsDirectory (join dir name) = false := by
  unfold wantsDirectory
  rw [h.endsInSlash_join, h.names_join_eq]
  simp [h.ne_point]

end IsName

/-!
## Texts of joined paths

A path that is joined from a directory and parts begins with the text of the directory, and each
part but the last is followed by a slash. So paths in one directory with equally many parts are
equal only when their parts are.
-/

def lead (dir : String) : List Char :=
  if dir.isEmpty || endsInSlash dir then dir.toList else dir.toList ++ ['/']

theorem toList_join {right : String} (hright : isAbsolute right = false) (left : String) :
    (join left right).toList = lead left ++ right.toList := by
  unfold join lead
  rw [hright, if_neg Bool.false_ne_true]
  by_cases hglue : (left.isEmpty || endsInSlash left) = true
  · rw [if_pos hglue, if_pos hglue, String.toList_append]
  · rw [if_neg hglue, if_neg hglue, String.toList_append, String.toList_append]
    rfl

theorem exists_lead (dir : String) :
    ∃ glue, lead dir = dir.toList ++ glue ∧ ∀ c ∈ glue, c = '/' := by
  unfold lead
  by_cases hglue : (dir.isEmpty || endsInSlash dir) = true
  · rw [if_pos hglue]
    exact ⟨[], (List.append_nil _).symm, fun _ hc => absurd hc List.not_mem_nil⟩
  · rw [if_neg hglue]
    exact ⟨['/'], rfl, fun _ hc => List.mem_singleton.mp hc⟩

def slashed (parts : List String) : List Char :=
  parts.flatMap fun part => part.toList ++ ['/']

section

variable {part : String}

theorem lead_join (h : IsPart part) (dir : String) :
    lead (join dir part) = lead dir ++ (part.toList ++ ['/']) := by
  rw [lead, h.join_isEmpty, h.endsInSlash_join, Bool.false_or, if_neg Bool.false_ne_true,
    toList_join h.isAbsolute_eq, List.append_assoc]

theorem lead_foldl_join {parts : List String} (hparts : ∀ part ∈ parts, IsPart part)
    (dir : String) : lead (parts.foldl join dir) = lead dir ++ slashed parts := by
  induction parts generalizing dir with
  | nil => simp [slashed]
  | cons part rest ih =>
      have hrest : ∀ other ∈ rest, IsPart other :=
        fun other hother => hparts other (List.mem_cons_of_mem _ hother)
      rw [List.foldl_cons, ih hrest, lead_join (hparts part List.mem_cons_self)]
      simp [slashed]

end

/-- What stands before the first separator of a text, and what stands after it. -/
theorem append_separator_inj {separator : Char} {left left' right right' : List Char}
    (hleft : separator ∉ left) (hleft' : separator ∉ left')
    (h : left ++ separator :: right = left' ++ separator :: right') :
    left = left' ∧ right = right' := by
  induction left generalizing left' with
  | nil =>
      cases left' with
      | nil => exact ⟨rfl, (List.cons.inj h).2⟩
      | cons c rest => exact absurd ((List.cons.inj h).1 ▸ List.mem_cons_self) hleft'
  | cons c rest ih =>
      cases left' with
      | nil => exact absurd ((List.cons.inj h).1 ▸ List.mem_cons_self) hleft
      | cons d others =>
          rcases List.cons.inj h with ⟨rfl, htail⟩
          rcases ih (fun hmem => hleft (List.mem_cons_of_mem _ hmem))
            (fun hmem => hleft' (List.mem_cons_of_mem _ hmem)) htail with ⟨rfl, hright⟩
          exact ⟨rfl, hright⟩

theorem slashed_append_inj {parts parts' : List String} {text text' : List Char}
    (hlength : parts.length = parts'.length) (hparts : ∀ part ∈ parts, IsPart part)
    (hparts' : ∀ part ∈ parts', IsPart part)
    (h : slashed parts ++ text = slashed parts' ++ text') : parts = parts' ∧ text = text' := by
  induction parts generalizing parts' with
  | nil =>
      cases parts' with
      | nil => exact ⟨rfl, h⟩
      | cons part' rest' => cases hlength
  | cons part rest ih =>
      cases parts' with
      | nil => cases hlength
      | cons part' rest' =>
          simp only [slashed, List.flatMap_cons, List.append_assoc, List.singleton_append] at h
          rcases append_separator_inj (hparts part List.mem_cons_self).no_slash
            (hparts' part' List.mem_cons_self).no_slash h with ⟨hpart, htail⟩
          rcases ih (Nat.succ.inj hlength)
            (fun other hother => hparts other (List.mem_cons_of_mem _ hother))
            (fun other hother => hparts' other (List.mem_cons_of_mem _ hother)) htail with
            ⟨rfl, htext⟩
          exact ⟨by rw [String.toList_injective hpart], htext⟩

end PathText
end TileAudit
