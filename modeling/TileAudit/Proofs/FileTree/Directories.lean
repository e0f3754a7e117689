import TileAudit.Proofs.FileTree.Lookup

/-!
# Making and removing directories

Directories are made along a path unless a file stands in the way; then nothing is made at
all. Whatever is made, every entry that was there stays as it was. A directory that a plain
path names is removed with all that is in it, and nothing else is.
-/

namespace TileAudit
namespace FileTree

open PathText

/-- A location on the way from one location to another that lies below it. -/
def OnWay (start loc far : Location) : Prop :=
  start <+: loc ∧ loc <+: far

theorem onWay_self_iff {start loc : Location} : OnWay start loc start ↔ loc = start := by
  constructor
  · intro h
    exact (h.1.eq_of_length_le h.2.length_le).symm
  · intro h
    rw [h]
    exact ⟨List.prefix_refl start, List.prefix_refl start⟩

theorem onWay_cons_iff {start loc : Location} {name : String} {rest : List String} :
    OnWay start loc (start ++ name :: rest) ↔
      loc = start ∨ OnWay (start ++ [name]) loc (start ++ name :: rest) := by
  constructor
  · intro h
    rcases h.1 with ⟨more, rfl⟩
    cases more with
    | nil => exact Or.inl (List.append_nil start)
    | cons first others =>
        have hmore := (List.prefix_append_right_inj start).mp h.2
        rcases List.cons_prefix_cons.mp hmore with ⟨rfl, _⟩
        refine Or.inr ⟨?_, h.2⟩
        exact (List.prefix_append_right_inj start).mpr
          (List.cons_prefix_cons.mpr ⟨rfl, List.nil_prefix⟩)
  · intro h
    rcases h with rfl | h
    · exact ⟨List.prefix_refl loc, List.prefix_append loc _⟩
    · exact ⟨(List.prefix_append start [name]).trans h.1, h.2⟩

theorem not_onWay_above (loc : Location) (name : String) {far : Location} :
    ¬ OnWay (loc ++ [name]) loc far := by
  intro h
  have hlength := h.1.length_le
  rw [List.length_append, List.length_singleton] at hlength
  omega

/-- A file stands on the way. -/
def IsObstructed (t : FileTree) (start far : Location) : Prop :=
  ∃ loc content executable, OnWay start loc far ∧ t.entry? loc = some (.file content executable)

theorem not_isObstructed_self {t : FileTree} {loc : Location}
    (h : t.entry? loc = some .directory) : ¬ IsObstructed t loc loc := by
  rintro ⟨other, content, executable, hway, hfile⟩
  rw [onWay_self_iff.mp hway, h] at hfile
  cases hfile

theorem isObstructed_cons_iff {t : FileTree} {start : Location} {name : String}
    {rest : List String} (h : t.entry? start = some .directory) :
    IsObstructed t start (start ++ name :: rest) ↔
      IsObstructed t (start ++ [name]) (start ++ name :: rest) := by
  constructor
  · rintro ⟨loc, content, executable, hway, hfile⟩
    rcases onWay_cons_iff.mp hway with rfl | hway
    · rw [h] at hfile
      cases hfile
    · exact ⟨loc, content, executable, hway, hfile⟩
  · rintro ⟨loc, content, executable, hway, hfile⟩
    exact ⟨loc, content, executable, onWay_cons_iff.mpr (Or.inr hway), hfile⟩

theorem not_isObstructed_of_none {t : FileTree} {start far : Location}
    (h : t.entry? start = none) : ¬ IsObstructed t start far := by
  rintro ⟨loc, content, executable, hway, hfile⟩
  rcases hway.1 with ⟨rest, rfl⟩
  by_cases hrest : rest = []
  · rw [hrest, List.append_nil, h] at hfile
    cases hfile
  · have hnone := entry?_below t hrest (by rw [h]; simp)
    rw [hnone] at hfile
    cases hfile

/-!
## Making directories

Either a file stands on the way and nothing is made, or every location on the way becomes a
directory and the rest is as before.
-/

theorem makeAlong_cons {t : FileTree} {loc : Location} {name : String}
    (hname : name ≠ "." ∧ name ≠ "..") (rest : List String) :
    t.makeAlong loc (name :: rest) =
      match t.entry? (loc ++ [name]) with
      | some .directory => t.makeAlong (loc ++ [name]) rest
      | some (.file _ _) =>
          (t, .error (if rest.isEmpty then .alreadyExists else .notADirectory))
      | none => (t.insert (loc ++ [name]) .directory).makeAlong (loc ++ [name]) rest := by
  cases hentry : t.entry? (loc ++ [name]) with
  | none => simp only [makeAlong, step_plain hname, hentry]
  | some entry =>
      cases entry with
      | directory => simp only [makeAlong, step_plain hname, hentry]
      | file content executable => simp only [makeAlong, step_plain hname, hentry]

theorem makeAlong_obstructed {t : FileTree} {names : List String}
    (hplain : ∀ name ∈ names, name ≠ "." ∧ name ≠ "..") {loc : Location}
    (hloc : t.entry? loc = some .directory) (h : IsObstructed t loc (loc ++ names)) :
    ∃ kind, t.makeAlong loc names = (t, .error kind) := by
  induction names generalizing loc with
  | nil =>
      rw [List.append_nil] at h
      exact absurd h (not_isObstructed_self hloc)
  | cons name rest ih =>
      have hrest : ∀ other ∈ rest, other ≠ "." ∧ other ≠ ".." :=
        fun other hother => hplain other (List.mem_cons_of_mem _ hother)
      have hnext := (isObstructed_cons_iff hloc).mp h
      rw [makeAlong_cons (hplain name List.mem_cons_self)]
      cases hentry : t.entry? (loc ++ [name]) with
      | none => exact absurd hnext (not_isObstructed_of_none hentry)
      | some entry =>
          cases entry with
          | file content executable => exact ⟨_, rfl⟩
          | directory =>
              have hsplit : loc ++ name :: rest = (loc ++ [name]) ++ rest := by simp
              rw [hsplit] at hnext
              exact ih hrest hentry hnext

theorem makeAlong_step {t : FileTree} {loc : Location} {name : String}
    (hname : name ≠ "." ∧ name ≠ "..") (hloc : t.entry? loc = some .directory)
    (hfree : ∀ content executable, t.entry? (loc ++ [name]) ≠ some (.file content executable))
    (rest : List String) :
    ∃ next : FileTree, t.makeAlong loc (name :: rest) = next.makeAlong (loc ++ [name]) rest ∧
      next.entry? (loc ++ [name]) = some .directory ∧
      ∀ other, other ≠ loc ++ [name] → next.entry? other = t.entry? other := by
  rw [makeAlong_cons hname]
  cases hentry : t.entry? (loc ++ [name]) with
  | none =>
      refine ⟨t.insert (loc ++ [name]) .directory, rfl, ?_, ?_⟩
      · exact entry?_insert_self t (fits_directory t hloc)
      · intro other hother
        exact entry?_insert_of_ne t .directory hother
  | some entry =>
      cases entry with
      | file content executable => exact absurd hentry (hfree content executable)
      | directory => exact ⟨t, rfl, hentry, fun _ _ => rfl⟩

theorem makeAlong_clear {t : FileTree} {names : List String}
    (hplain : ∀ name ∈ names, name ≠ "." ∧ name ≠ "..") {loc : Location}
    (hloc : t.entry? loc = some .directory) (h : ¬ IsObstructed t loc (loc ++ names)) :
    ∃ made, t.makeAlong loc names = (made, .ok (loc ++ names)) ∧
      (∀ other, OnWay loc other (loc ++ names) → made.entry? other = some .directory) ∧
      ∀ other, ¬ OnWay loc other (loc ++ names) → made.entry? other = t.entry? other := by
  induction names generalizing t loc with
  | nil =>
      refine ⟨t, by simp [makeAlong], ?_, fun _ _ => rfl⟩
      intro other hother
      rw [List.append_nil] at hother
      rw [onWay_self_iff.mp hother]
      exact hloc
  | cons name rest ih =>
      have hrest : ∀ other ∈ rest, other ≠ "." ∧ other ≠ ".." :=
        fun other hother => hplain other (List.mem_cons_of_mem _ hother)
      have hsplit : loc ++ name :: rest = (loc ++ [name]) ++ rest := by simp
      have hfirst : OnWay (loc ++ [name]) (loc ++ [name]) (loc ++ name :: rest) := by
        rw [hsplit]
        exact ⟨List.prefix_refl _, List.prefix_append _ _⟩
      have hfree : ∀ content executable,
          t.entry? (loc ++ [name]) ≠ some (.file content executable) := by
        intro content executable hfile
        exact h ⟨_, content, executable, onWay_cons_iff.mpr (Or.inr hfirst), hfile⟩
      rcases makeAlong_step (hplain name List.mem_cons_self) hloc hfree rest with
        ⟨next, hstep, hnext, hsame⟩
      -- The first step makes a directory, so it puts nothing into the way that is left.
      have hclear : ¬ IsObstructed next (loc ++ [name]) (loc ++ name :: rest) := by
        rintro ⟨other, content, executable, hway, hfile⟩
        by_cases hother : other = loc ++ [name]
        · rw [hother, hnext] at hfile
          cases hfile
        · rw [hsame other hother] at hfile
          exact h ⟨other, content, executable, onWay_cons_iff.mpr (Or.inr hway), hfile⟩
      rw [hsplit] at hclear
      rcases ih hrest hnext hclear with ⟨made, hrun, hon, hoff⟩
      rw [← hsplit] at hrun hon hoff
      refine ⟨made, hstep.trans hrun, ?_, ?_⟩
      · intro other hother
        rcases onWay_cons_iff.mp hother with rfl | hother
        · rw [hoff other (not_onWay_above other name), hsame other (by simp)]
          exact hloc
        · exact hon other hother
      · intro other hother
        have hnot : ¬ OnWay (loc ++ [name]) other (loc ++ name :: rest) :=
          fun hway => hother (onWay_cons_iff.mpr (Or.inr hway))
        have hne : other ≠ loc ++ [name] := by
          rintro rfl
          exact hnot hfirst
        rw [hoff other hnot, hsame other hne]

theorem makeAlong_keeps (t : FileTree) (names : List String) (loc : Location) {other : Location}
    {entry : Entry} (h : t.entry? other = some entry) :
    FileTree.entry? (t.makeAlong loc names).1 other = some entry := by
  induction names generalizing t loc with
  | nil => exact h
  | cons name rest ih =>
      rw [makeAlong]
      cases hentry : t.entry? (step loc name) with
      | none =>
          have hne : other ≠ step loc name := by
            rintro rfl
            rw [hentry] at h
            cases h
          apply ih
          rw [entry?_insert_of_ne t _ hne]
          exact h
      | some found =>
          cases found with
          | file content executable => exact h
          | directory => exact ih t (step loc name) h

/-- What making a place and the directories above it has changed. -/
structure Raised (before after : FileTree) (place : Location) : Prop where
  directories : ∀ above, above <+: place → after.entry? above = some .directory
  elsewhere : ∀ other, ¬ other <+: place → after.entry? other = before.entry? other
  kept : ∀ other entry, before.entry? other = some entry → after.entry? other = some entry

theorem Raised.refl {t : FileTree} {place : Location} (hplace : t.entry? place = some .directory) :
    Raised t t place where
  directories := fun _ habove => directory_above habove hplace
  elsewhere := fun _ _ => rfl
  kept := fun _ _ h => h

section

variable {t : FileTree} {path : String} (cwd : Location)

theorem withoutPoints_plain {names : List String}
    (hplain : ∀ name ∈ names, name ≠ "." ∧ name ≠ "..") : withoutPoints names = names := by
  unfold withoutPoints
  cases hreverse : names.reverse with
  | nil => simpa using hreverse
  | cons last front =>
      have hlast : last ∈ names := by
        rw [← List.mem_reverse, hreverse]
        exact List.mem_cons_self
      rw [List.dropWhile_cons_of_neg (by simpa using (hplain last hlast).1), ← hreverse,
        List.reverse_reverse]

theorem IsPlain.makeDirectories_eq (hpath : IsPlain path) :
    t.makeDirectories cwd path =
      ((t.makeAlong [] (names path)).1,
        (t.makeAlong [] (names path)).2.map fun _ => ()) := by
  unfold makeDirectories
  simp only [hpath.not_isEmpty, hpath.startOf_eq, withoutPoints_plain hpath.plain,
    Bool.false_eq_true, if_false, if_true]

theorem IsPlain.makeDirectories_obstructed (hpath : IsPlain path)
    (h : IsObstructed t [] (names path)) :
    ∃ kind, t.makeDirectories cwd path = (t, .error kind) := by
  rcases makeAlong_obstructed hpath.plain t.entry?_root h with ⟨kind, hrun⟩
  refine ⟨kind, ?_⟩
  rw [hpath.makeDirectories_eq, hrun]
  rfl

theorem IsPlain.makeDirectories_clear (hpath : IsPlain path)
    (h : ¬ IsObstructed t [] (names path)) :
    ∃ made, t.makeDirectories cwd path = (made, .ok ()) ∧ Raised t made (names path) := by
  rcases makeAlong_clear hpath.plain t.entry?_root h with ⟨made, hrun, hon, hoff⟩
  refine ⟨made, ?_, ?_, ?_, ?_⟩
  · rw [hpath.makeDirectories_eq, hrun]
    rfl
  · intro loc hloc
    exact hon loc ⟨List.nil_prefix, hloc⟩
  · intro loc hloc
    exact hoff loc fun hway => hloc hway.2
  · intro loc entry hloc
    have hkeeps := makeAlong_keeps t (names path) [] hloc
    rw [hrun] at hkeeps
    exact hkeeps

theorem IsPlain.last_name (hpath : IsPlain path) :
    ∃ name, (names path).getLast? = some name ∧ name ≠ "." ∧ name ≠ ".." := by
  refine ⟨(names path).getLast hpath.ne_root, ?_, ?_⟩
  · exact List.getLast?_eq_some_getLast hpath.ne_root
  · exact hpath.plain _ (List.getLast_mem hpath.ne_root)

theorem IsPlain.removeDirectory_directory (hpath : IsPlain path)
    (h : t.entry? (names path) = some .directory) :
    t.removeDirectory cwd path = (t.erase (names path), .ok ()) := by
  rcases hpath.last_name with ⟨name, hlast, hpoint, hpoints⟩
  have hcleared : (t.clear (names path)).pathExists cwd path = true :=
    (hpath.leads cwd (directory_clear h)).pathExists hpath.not_isEmpty
  unfold removeDirectory
  simp only [hpath.lookup_directory h, hcleared, hlast, if_true]

end

end FileTree
end TileAudit
