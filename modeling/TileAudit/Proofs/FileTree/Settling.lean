import TileAudit.Proofs.FileTree.Surroundings

/-!
# Paths that settle

A path settles at a place when it goes up only where directories are there already, outside the
place, and goes straight down after that. Such a path leads to its place whatever becomes of what is
below the place. It may be relative, and it may name a directory by "here".
-/

namespace TileAudit
namespace FileTree

open PathText

def realNames (names : List String) : List String :=
  names.filter (· ≠ ".")

/-- A way that settles at a place. -/
inductive Settles (t : FileTree) (place : Location) : Location → List String → Prop where
  /-- Straight down from a directory. -/
  | down {loc : Location} {names : List String} (hloc : t.entry? loc = some .directory)
      (hnames : ".." ∉ names) (hplace : place = loc ++ realNames names) : Settles t place loc names
  /-- Through a directory that is there, to go up from it or further on. -/
  | through {loc : Location} {name : String} {rest : List String}
      (hloc : t.entry? loc = some .directory) (hout : ¬ place <+: loc) (hup : ".." ∈ name :: rest)
      (hrest : Settles t place (step loc name) rest) : Settles t place loc (name :: rest)

/-- A way that ends in the name of an entry, and not in "here" or "above". -/
def EndsInName (names : List String) : Prop :=
  ∃ front last, names = front ++ [last] ∧ last ≠ "." ∧ last ≠ ".."

theorem step_here (loc : Location) : step loc "." = loc := by
  simp [step]

theorem realNames_here (rest : List String) : realNames ("." :: rest) = realNames rest := by
  simp [realNames]

theorem realNames_cons {name : String} (hname : name ≠ ".") (rest : List String) :
    realNames (name :: rest) = name :: realNames rest := by
  simp [realNames, hname]

theorem realNames_append (front back : List String) :
    realNames (front ++ back) = realNames front ++ realNames back :=
  List.filter_append ..

theorem realNames_points {points : List String} (h : ∀ point ∈ points, point = ".") :
    realNames points = [] := by
  apply List.filter_eq_nil_iff.mpr
  intro point hpoint
  simp [h point hpoint]

theorem plain_realNames {names : List String} (h : ".." ∉ names) :
    ∀ name ∈ realNames names, name ≠ "." ∧ name ≠ ".." := by
  intro name hname
  rcases List.mem_filter.mp hname with ⟨hmem, hreal⟩
  refine ⟨of_decide_eq_true hreal, ?_⟩
  rintro rfl
  exact h hmem

theorem EndsInName.realNames_ne_nil {names : List String} (h : EndsInName names) :
    realNames names ≠ [] := by
  rcases h with ⟨front, last, rfl, hpoint, _⟩
  rw [realNames_append, realNames_cons hpoint]
  simp

theorem EndsInName.tail {name : String} {rest : List String} (h : EndsInName (name :: rest))
    (hup : ".." ∈ name :: rest) : EndsInName rest := by
  rcases h with ⟨front, last, hnames, hpoint, hpoints⟩
  cases front with
  | nil =>
      cases hnames
      rw [List.mem_singleton] at hup
      exact absurd hup.symm hpoints
  | cons first more =>
      cases hnames
      exact ⟨more, last, rfl, hpoint, hpoints⟩

section

variable {t t' : FileTree} {place loc found : Location} {names : List String}

/-!
## Following a way that settles

A way keeps its place while the directories outside the place are kept, and the place itself where
the way does not end in a name.
-/

theorem Settles.start (h : Settles t place loc names) : t.entry? loc = some .directory := by
  cases h with
  | down hloc _ _ => exact hloc
  | through hloc _ _ _ => exact hloc

theorem follow_down (hnames : ".." ∉ names) (hloc : t.entry? loc = some .directory)
    (hplace : t.entry? (loc ++ realNames names) = some .directory) :
    t.follow loc names = .ok (loc ++ realNames names) := by
  induction names generalizing loc with
  | nil => simp [follow, realNames]
  | cons name rest ih =>
      rw [List.mem_cons, not_or] at hnames
      rw [follow_cons_directory hloc]
      by_cases hname : name = "."
      · rw [hname, realNames_here] at hplace ⊢
        rw [step_here]
        exact ih hnames.2 hloc hplace
      · have hsplit : loc ++ realNames (name :: rest) = (loc ++ [name]) ++ realNames rest := by
          simp [realNames_cons hname]
        rw [hsplit] at hplace ⊢
        rw [step_plain ⟨hname, Ne.symm hnames.1⟩]
        exact ih hnames.2 (directory_above (List.prefix_append _ _) hplace) hplace

theorem eq_of_follow_down (hnames : ".." ∉ names) (h : t.follow loc names = .ok found) :
    found = loc ++ realNames names := by
  induction names generalizing loc with
  | nil =>
      rw [follow] at h
      cases h
      simp [realNames]
  | cons name rest ih =>
      rw [List.mem_cons, not_or] at hnames
      rw [follow] at h
      cases hentry : t.entry? loc with
      | none =>
          rw [hentry] at h
          cases h
      | some entry =>
          cases entry with
          | file content executable =>
              rw [hentry] at h
              cases h
          | directory =>
              rw [hentry] at h
              by_cases hname : name = "."
              · rw [hname, step_here] at h
                rw [hname, realNames_here]
                exact ih hnames.2 h
              · rw [step_plain ⟨hname, Ne.symm hnames.1⟩] at h
                rw [realNames_cons hname, ih hnames.2 h, List.append_assoc, List.singleton_append]

theorem Settles.follow (h : Settles t place loc names)
    (hplace : t.entry? place = some .directory) : t.follow loc names = .ok place := by
  induction h with
  | down hloc hnames heq =>
      rw [heq] at hplace ⊢
      exact follow_down hnames hloc hplace
  | through hloc _ _ _ ih =>
      rw [follow_cons_directory hloc]
      exact ih

theorem Settles.eq_of_follow (h : Settles t place loc names)
    (hfound : t.follow loc names = .ok found) :
    found = place := by
  induction h with
  | down _ hnames heq => rw [heq, eq_of_follow_down hnames hfound]
  | through hloc _ _ _ ih =>
      rw [follow_cons_directory hloc] at hfound
      exact ih hfound

theorem Settles.kept (h : Settles t place loc names)
    (hkept : ∀ l, ¬ place <+: l → t.entry? l = some .directory → t'.entry? l = some .directory)
    (hhere : (t.entry? place = some .directory → t'.entry? place = some .directory) ∨
      EndsInName names) :
    Settles t' place loc names := by
  induction h with
  | @down loc names hloc hnames heq =>
      refine .down ?_ hnames heq
      -- A way without a name to add starts at the place itself, any other one outside of it.
      by_cases hreal : realNames names = []
      · rcases hhere with hhere | hends
        · rw [heq, hreal, List.append_nil] at hhere
          exact hhere hloc
        · exact absurd hreal hends.realNames_ne_nil
      · apply hkept loc _ hloc
        intro hprefix
        have hlength := hprefix.length_le
        rw [heq, List.length_append] at hlength
        exact hreal (List.eq_nil_of_length_eq_zero (by omega))
  | through hloc hout hup _ ih =>
      exact .through (hkept _ hout hloc) hout hup (ih (hhere.imp_right fun hends => hends.tail hup))

theorem Settles.not_ends_above {front points : List String} (hpoints : ∀ point ∈ points, point = ".")
    (h : Settles t place loc (front ++ ".." :: points)) : False := by
  generalize hnames : front ++ ".." :: points = names at h
  induction h generalizing front with
  | down _ hplain _ =>
      rw [← hnames] at hplain
      exact hplain (by simp)
  | @through loc name rest _ hout _ hrest ih =>
      cases front with
      | cons first more =>
          cases hnames
          exact ih rfl
      | nil =>
          cases hnames
          have hplain : ".." ∉ points := fun hmem => by simpa using hpoints _ hmem
          -- After the step up the way is at the place, so before it the way was below the place.
          cases hrest with
          | down _ _ heq =>
              rw [realNames_points hpoints, List.append_nil] at heq
              rw [heq] at hout
              exact hout (List.dropLast_prefix loc)
          | through _ _ hup _ => exact hplain hup

theorem Settles.place_ne_root (h : Settles t place loc names) (hends : EndsInName names) :
    place ≠ [] := by
  induction h with
  | @down loc names _ _ heq =>
      rw [heq]
      exact List.append_ne_nil_of_right_ne_nil loc hends.realNames_ne_nil
  | through _ _ hup _ ih => exact ih (hends.tail hup)

end

/-!
## Making directories

Names for "here" make no difference to what is made. On the way to a place in front of its last name
only directories above the place are made.
-/

/-- What was made on the way to a place that was not made itself. -/
def RaisedAbove (before after : FileTree) (place : Location) : Prop :=
  ∀ other, after.entry? other = before.entry? other ∨
    IsMadeAbove before after place other ∧ other ≠ place

section

variable {t t' made : FileTree} {place loc : Location} {names : List String}

theorem RaisedAbove.refl (t : FileTree) (place : Location) : RaisedAbove t t place :=
  fun _ => Or.inl rfl

theorem makeAlong_realNames (hloc : t.entry? loc = some .directory) (hnames : ".." ∉ names) :
    (t.makeAlong loc names).1 = (t.makeAlong loc (realNames names)).1 ∧
      (t.makeAlong loc names).2.toOption = (t.makeAlong loc (realNames names)).2.toOption := by
  induction names generalizing t loc with
  | nil => exact ⟨rfl, rfl⟩
  | cons name rest ih =>
      rw [List.mem_cons, not_or] at hnames
      by_cases hname : name = "."
      · rw [hname, realNames_here]
        simp only [makeAlong, step_here, hloc]
        exact ih hloc hnames.2
      · rw [realNames_cons hname, makeAlong_cons ⟨hname, Ne.symm hnames.1⟩,
          makeAlong_cons ⟨hname, Ne.symm hnames.1⟩]
        cases hentry : t.entry? (loc ++ [name]) with
        | none => exact ih (entry?_insert_self t (fits_directory t hloc)) hnames.2
        | some entry =>
            cases entry with
            | directory => exact ih hentry hnames.2
            | file content executable => exact ⟨rfl, rfl⟩

theorem makeAlong_down (hloc : t.entry? loc = some .directory) (hnames : ".." ∉ names) :
    (∃ kind, t.makeAlong loc names = (t, .error kind)) ∨
    ∃ made, t.makeAlong loc names = (made, .ok (loc ++ realNames names)) ∧
      Raised t made (loc ++ realNames names) := by
  have hplain := plain_realNames hnames
  rcases makeAlong_realNames hloc hnames with ⟨htree, houtcome⟩
  rcases hmade : t.makeAlong loc names with ⟨made, outcome⟩
  rw [hmade] at htree houtcome
  by_cases hobstructed : IsObstructed t loc (loc ++ realNames names)
  · rcases makeAlong_obstructed hplain hloc hobstructed with ⟨kind, hrun⟩
    rw [hrun] at htree houtcome
    cases outcome with
    | ok found => cases houtcome
    | error kind' =>
        cases htree
        exact Or.inl ⟨kind', rfl⟩
  · rcases makeAlong_clear hplain hloc hobstructed with ⟨made', hrun, hon, hoff⟩
    rw [hrun] at htree houtcome
    cases outcome with
    | error kind => cases houtcome
    | ok found =>
        cases htree
        cases houtcome
        refine Or.inr ⟨made, rfl, ?_, fun other hother => hoff other fun hway => hother hway.2, ?_⟩
        · intro above habove
          rcases List.prefix_or_prefix_of_prefix habove (List.prefix_append loc _) with hup | hdown
          · have hstart : made.entry? loc = some .directory :=
              hon loc ⟨List.prefix_refl loc, List.prefix_append loc _⟩
            exact directory_above hup hstart
          · exact hon above ⟨hdown, habove⟩
        · intro other entry hother
          have hkeeps := makeAlong_keeps t names loc hother
          rw [hmade] at hkeeps
          exact hkeeps

theorem Settles.makeAlong (h : Settles t place loc names) :
    (∃ kind, t.makeAlong loc names = (t, .error kind)) ∨
    ∃ made, t.makeAlong loc names = (made, .ok place) ∧ Raised t made place := by
  induction h with
  | down hloc hnames heq =>
      rw [heq]
      exact makeAlong_down hloc hnames
  | through _ _ _ hrest ih =>
      simp only [FileTree.makeAlong, hrest.start]
      exact ih

theorem Settles.makeAlong_front {front points : List String} {last : String} (hlast : last ≠ ".")
    (h : Settles t place loc (front ++ last :: points)) :
    RaisedAbove t (t.makeAlong loc front).1 place := by
  generalize hnames : front ++ last :: points = names at h
  induction h generalizing front with
  | @down loc names hloc hplain heq =>
      rw [← hnames] at hplain heq
      have hfront : ".." ∉ front := fun hmem => hplain (List.mem_append_left _ hmem)
      rw [realNames_append, realNames_cons hlast] at heq
      rcases makeAlong_down hloc hfront with ⟨kind, hrun⟩ | ⟨made, hrun, hraised⟩
      · rw [hrun]
        exact RaisedAbove.refl t place
      · intro other
        cases hentry : t.entry? other with
        | some entry =>
            rw [makeAlong_keeps t front loc hentry]
            exact Or.inl rfl
        | none =>
            rw [hrun]
            by_cases hother : other <+: loc ++ realNames front
            · have hplace : other <+: place := by
                rw [heq, ← List.append_assoc]
                exact hother.trans (List.prefix_append _ _)
              refine Or.inr ⟨⟨hplace, hentry, hraised.directories other hother⟩, ?_⟩
              intro hsame
              have hlength := hother.length_le
              rw [hsame, heq, List.length_append, List.length_append, List.length_append,
                List.length_cons] at hlength
              omega
            · rw [hraised.elsewhere other hother]
              exact Or.inl hentry
  | @through loc name rest hloc hout hup hrest ih =>
      cases front with
      | nil => exact RaisedAbove.refl t place
      | cons first more =>
          cases hnames
          simp only [FileTree.makeAlong, hrest.start]
          exact ih rfl

end

/-!
## Paths that settle

A path that ends in "here" or "above" makes no directory of its own: it asks for what is above it,
and then has to be there. So making a directory is refused, with no more than directories above the
place made, or makes the place.
-/

theorem withoutPoints_here (front : List String) :
    withoutPoints (front ++ ["."]) = withoutPoints front := by
  simp [withoutPoints]

theorem length_withoutPoints_le (names : List String) :
    (withoutPoints names).length ≤ names.length := by
  have hlength := (List.dropWhile_suffix (l := names.reverse) (· = ".")).length_le
  rw [List.length_reverse] at hlength
  unfold withoutPoints
  rw [List.length_reverse]
  exact hlength

section

variable {t : FileTree} {cwd place loc : Location} {path : String}

theorem Settles.leads (h : Settles t place (startOf cwd path) (names path))
    (hplace : t.entry? place = some .directory) : Leads t cwd path place :=
  ⟨h.follow hplace, hplace⟩

theorem Settles.lookup_ne_directory (h : Settles t place (startOf cwd path) (names path))
    (hplace : t.entry? place ≠ some .directory) (l : Location) :
    t.lookup cwd path ≠ .ok (l, .directory) := by
  intro hlookup
  unfold FileTree.lookup locate at hlookup
  by_cases hempty : path.isEmpty = true
  · rw [if_pos hempty] at hlookup
    cases hlookup
  · rw [if_neg hempty] at hlookup
    cases hfollow : t.follow (startOf cwd path) (names path) with
    | error kind =>
        rw [hfollow] at hlookup
        cases hlookup
    | ok found =>
        rw [hfollow, h.eq_of_follow hfollow] at hlookup
        dsimp only at hlookup
        cases hentry : t.entry? place with
        | none =>
            rw [hentry] at hlookup
            cases hlookup
        | some entry =>
            cases entry with
            | directory => exact hplace hentry
            | file content executable =>
                rw [hentry] at hlookup
                dsimp only at hlookup
                by_cases hwants : wantsDirectory path = true
                · rw [if_pos hwants] at hlookup
                  cases hlookup
                · rw [if_neg hwants] at hlookup
                  cases hlookup

theorem exists_of_lookup_here {front : List String} (hnames : names path = front ++ ["."])
    {found : Location × Entry} (h : t.lookup cwd path = .ok found) :
    found.2 = .directory := by
  have hwants : wantsDirectory path = true := by
    simp [wantsDirectory, hnames]
  unfold FileTree.lookup at h
  cases hlocate : t.locate cwd path with
  | error kind =>
      rw [hlocate] at h
      cases h
  | ok l =>
      rw [hlocate] at h
      dsimp only at h
      cases hentry : t.entry? l with
      | none =>
          rw [hentry] at h
          cases h
      | some entry =>
          rw [hentry] at h
          cases entry with
          | directory =>
              cases h
              rfl
          | file content executable =>
              simp only [hwants, if_true] at h
              cases h

theorem ends_cases (names : List String) :
    names = [] ∨ EndsInName names ∨ (∃ front, names = front ++ ["."]) ∨
      ∃ front, names = front ++ [".."] := by
  rcases List.eq_nil_or_concat names with hnil | ⟨front, last, hnames⟩
  · exact Or.inl hnil
  · rw [List.concat_eq_append] at hnames
    by_cases hpoint : last = "."
    · exact Or.inr (Or.inr (Or.inl ⟨front, by rw [hnames, hpoint]⟩))
    by_cases hpoints : last = ".."
    · exact Or.inr (Or.inr (Or.inr ⟨front, by rw [hnames, hpoints]⟩))
    · exact Or.inr (Or.inl ⟨front, last, hnames, hpoint, hpoints⟩)

theorem makeDirectories_of_bare (hpath : path.isEmpty = false)
    (hbare : withoutPoints (names path) = names path) :
    t.makeDirectories cwd path =
      ((t.makeAlong (startOf cwd path) (names path)).1,
        (t.makeAlong (startOf cwd path) (names path)).2.map fun _ => ()) := by
  unfold makeDirectories
  simp only [hpath, hbare, Bool.false_eq_true, if_false, if_true]

theorem makeDirectories_of_here (hpath : path.isEmpty = false) {front : List String}
    (hnames : names path = front ++ ["."]) :
    t.makeDirectories cwd path =
      match t.makeAlong (startOf cwd path) (withoutPoints (names path)).dropLast with
      | (made, .error kind) => (made, .error kind)
      | (made, .ok _) => (made, (made.lookup cwd path).map fun _ => ()) := by
  have hlength := length_withoutPoints_le front
  have hne : (withoutPoints (names path)).length ≠ (names path).length := by
    rw [hnames, withoutPoints_here, List.length_append, List.length_singleton]
    omega
  unfold makeDirectories
  simp only [hpath, hne, Bool.false_eq_true, if_false]
  rcases t.makeAlong (startOf cwd path) (withoutPoints (names path)).dropLast with ⟨made, outcome⟩
  cases outcome with
  | error kind => rfl
  | ok found => rfl

theorem isPrefix_dropLast_withoutPoints (names : List String) :
    (withoutPoints names).dropLast <+: names := by
  rcases exists_points names with ⟨points, _, hsplit⟩
  exact (List.dropLast_prefix _).trans ⟨points, hsplit.symm⟩

theorem Leads.makeDirectories_here (h : Leads t cwd path place) (hpath : path.isEmpty = false)
    {front : List String} (hnames : names path = front ++ ["."]) :
    t.makeDirectories cwd path = (t, .ok ()) := by
  have hway : ∃ mid, t.makeAlong (startOf cwd path) (withoutPoints (names path)).dropLast =
      (t, .ok mid) := by
    have hfollows := h.follows
    rcases isPrefix_dropLast_withoutPoints (names path) with ⟨rest, hrest⟩
    rw [← hrest] at hfollows
    cases hfront : t.follow (startOf cwd path) (withoutPoints (names path)).dropLast with
    | error kind =>
        rw [follow_append_error hfront] at hfollows
        cases hfollows
    | ok mid =>
        rw [follow_append hfront] at hfollows
        exact ⟨mid, makeAlong_of_follow hfront (directory_of_follow hfollows h.directory)⟩
  rcases hway with ⟨mid, hway⟩
  rw [makeDirectories_of_here hpath hnames, hway]
  dsimp only
  rw [h.lookup hpath]
  rfl

theorem last_withoutPoints_ne {names front : List String} {last : String}
    (h : withoutPoints names = front ++ [last]) : last ≠ "." := by
  have hreverse : names.reverse.dropWhile (· = ".") = last :: front.reverse := by
    have hback := congrArg List.reverse h
    simpa [withoutPoints] using hback
  have hhead := List.head?_dropWhile_not (· = ".") names.reverse
  rw [hreverse] at hhead
  exact of_decide_eq_false hhead

theorem Settles.directory_of_points {names : List String}
    (hpoints : ∀ point ∈ names, point = ".") (h : Settles t place loc names) :
    t.entry? place = some .directory := by
  cases h with
  | down hloc _ heq =>
      rw [heq, realNames_points hpoints, List.append_nil]
      exact hloc
  | through _ _ hup _ => exact absurd (hpoints _ hup) (by decide)

theorem Settles.makeDirectories_missing (h : Settles t place (startOf cwd path) (names path))
    (hpath : path.isEmpty = false) (hplace : t.entry? place ≠ some .directory)
    {front : List String} (hnames : names path = front ++ ["."]) :
    ∃ kind made, t.makeDirectories cwd path = (made, .error kind) ∧ RaisedAbove t made place := by
  rcases exists_points (names path) with ⟨points, hpoints, hsplit⟩
  rcases List.eq_nil_or_concat (withoutPoints (names path)) with hnil | ⟨front', last, hbare⟩
  · rw [hnil, List.nil_append] at hsplit
    rw [hsplit] at h
    exact absurd (h.directory_of_points hpoints) hplace
  · rw [List.concat_eq_append] at hbare
    have hway := h
    rw [hsplit, hbare, List.append_assoc, List.singleton_append] at hway
    have hraised := hway.makeAlong_front (last_withoutPoints_ne hbare)
    rw [makeDirectories_of_here hpath hnames, hbare, List.dropLast_concat]
    rcases hmade : t.makeAlong (startOf cwd path) front' with ⟨made, outcome⟩
    rw [hmade] at hraised
    cases outcome with
    | error kind => exact ⟨kind, made, rfl, hraised⟩
    | ok found =>
        have hkept : ∀ l, t.entry? l = some .directory → made.entry? l = some .directory := by
          intro l hl
          have hkeeps := makeAlong_keeps t front' (startOf cwd path) hl
          rw [hmade] at hkeeps
          exact hkeeps
        have hsettles : Settles made place (startOf cwd path) (names path) :=
          h.kept (fun l _ => hkept l) (Or.inl (hkept place))
        have hmissing : made.entry? place ≠ some .directory := by
          rcases hraised place with hsame | ⟨_, hne⟩
          · rw [hsame]
            exact hplace
          · exact absurd rfl hne
        cases hlookup : made.lookup cwd path with
        | error kind =>
            refine ⟨kind, made, ?_, hraised⟩
            dsimp only
            rw [hlookup]
            rfl
        | ok found =>
            rcases found with ⟨l, entry⟩
            have hentry := exists_of_lookup_here hnames hlookup
            cases hentry
            exact absurd hlookup (hsettles.lookup_ne_directory hmissing l)

theorem Settles.makeDirectories_bare (h : Settles t place (startOf cwd path) (names path))
    (hpath : path.isEmpty = false) (hbare : withoutPoints (names path) = names path) :
    (∃ kind made, t.makeDirectories cwd path = (made, .error kind) ∧ RaisedAbove t made place) ∨
    ∃ made, t.makeDirectories cwd path = (made, .ok ()) ∧ Raised t made place := by
  rw [makeDirectories_of_bare hpath hbare]
  rcases h.makeAlong with ⟨kind, hrun⟩ | ⟨made, hrun, hraised⟩
  · rw [hrun]
    exact Or.inl ⟨kind, t, rfl, RaisedAbove.refl t place⟩
  · rw [hrun]
    exact Or.inr ⟨made, rfl, hraised⟩

theorem Settles.ne_above (h : Settles t place loc (names path)) (front : List String) :
    names path ≠ front ++ [".."] := by
  intro hnames
  have hnone : ∀ point ∈ ([] : List String), point = "." := by simp
  rw [hnames] at h
  exact h.not_ends_above hnone

theorem Settles.makeDirectories (h : Settles t place (startOf cwd path) (names path))
    (hpath : path.isEmpty = false) :
    (∃ kind made, t.makeDirectories cwd path = (made, .error kind) ∧ RaisedAbove t made place) ∨
    ∃ made, t.makeDirectories cwd path = (made, .ok ()) ∧ Raised t made place ∧
      (EndsInName (names path) ∨ t.entry? place = some .directory) := by
  rcases ends_cases (names path) with hnil | hends | ⟨front, hhere⟩ | ⟨front, habove⟩
  · have hbare : withoutPoints (names path) = names path := by
      rw [hnil]
      rfl
    have hplace : t.entry? place = some .directory := by
      rw [hnil] at h
      exact h.directory_of_points (by simp)
    rcases h.makeDirectories_bare hpath hbare with hrefused | ⟨made, hmade, hraised⟩
    · exact Or.inl hrefused
    · exact Or.inr ⟨made, hmade, hraised, Or.inr hplace⟩
  · have hbare : withoutPoints (names path) = names path := by
      rcases hends with ⟨front, last, hnames, hpoint, _⟩
      rw [hnames, withoutPoints_concat hpoint]
    rcases h.makeDirectories_bare hpath hbare with hrefused | ⟨made, hmade, hraised⟩
    · exact Or.inl hrefused
    · exact Or.inr ⟨made, hmade, hraised, Or.inl hends⟩
  · by_cases hplace : t.entry? place = some .directory
    · exact Or.inr ⟨t, (h.leads hplace).makeDirectories_here hpath hhere, Raised.refl hplace,
        Or.inr hplace⟩
    · exact Or.inl (h.makeDirectories_missing hpath hplace hhere)
  · exact absurd habove (h.ne_above front)

theorem not_endsInName_nil : ¬ EndsInName [] := by
  rintro ⟨front, last, hnames, _⟩
  simp at hnames

theorem not_endsInName_here (front : List String) : ¬ EndsInName (front ++ ["."]) := by
  rintro ⟨front', last, hnames, hpoint, _⟩
  exact hpoint (List.singleton_inj.mp (List.append_inj_right' hnames rfl)).symm

theorem Settles.removeDirectory (h : Settles t place (startOf cwd path) (names path))
    (hpath : path.isEmpty = false) (hplace : t.entry? place = some .directory) :
    (EndsInName (names path) ∧ t.removeDirectory cwd path = (t.erase place, .ok ())) ∨
    ¬ EndsInName (names path) ∧
      ∃ kind, t.removeDirectory cwd path = (t.clear place, .error kind) := by
  have hlookup := (h.leads hplace).lookup hpath
  have hhere := directory_clear hplace
  have hsettles : Settles (t.clear place) place (startOf cwd path) (names path) := by
    apply h.kept _ (Or.inl fun _ => hhere)
    intro l hout hl
    rw [entry?_clear, if_neg fun hbelow => hout hbelow.1]
    exact hl
  have hcleared := (hsettles.leads hhere).pathExists hpath
  unfold FileTree.removeDirectory
  simp only [hlookup, hcleared, if_true]
  rcases ends_cases (names path) with hnil | hends | ⟨front, hhere⟩ | ⟨front, habove⟩
  · rw [hnil]
    exact Or.inr ⟨not_endsInName_nil, _, rfl⟩
  · refine Or.inl ⟨hends, ?_⟩
    rcases hends with ⟨front, last, hnames, hpoint, hpoints⟩
    simp only [hnames, List.getLast?_concat]
  · rw [hhere, List.getLast?_concat]
    exact Or.inr ⟨not_endsInName_here front, _, rfl⟩
  · exact absurd habove (h.ne_above front)

end

/-- A way that leads through directories that are there to a file, and goes on from it. -/
inductive IsBlocked (t : FileTree) : Location → List String → Prop where
  | here {loc : Location} {name : String} {rest : List String} {content : Content}
      {executable : Bool} (hloc : t.entry? loc = some .directory)
      (hfile : t.entry? (step loc name) = some (.file content executable)) (hon : rest ≠ []) :
      IsBlocked t loc (name :: rest)
  | further {loc : Location} {name : String} {rest : List String}
      (hloc : t.entry? loc = some .directory) (hrest : IsBlocked t (step loc name) rest) :
      IsBlocked t loc (name :: rest)

section

variable {t : FileTree} {cwd loc : Location} {names : List String} {path : String}

theorem IsBlocked.start (h : IsBlocked t loc names) : t.entry? loc = some .directory := by
  cases h with
  | here hloc _ _ => exact hloc
  | further hloc _ => exact hloc

theorem IsBlocked.follow (h : IsBlocked t loc names) :
    t.follow loc names = .error .notADirectory := by
  induction h with
  | @here loc name rest content executable hloc hfile hon =>
      rw [follow_cons_directory hloc]
      cases rest with
      | nil => exact absurd rfl hon
      | cons next more => rw [FileTree.follow, hfile]
  | further hloc _ ih =>
      rw [follow_cons_directory hloc]
      exact ih

theorem IsBlocked.makeAlong (h : IsBlocked t loc names) :
    t.makeAlong loc names = (t, .error .notADirectory) := by
  induction h with
  | @here loc name rest content executable hloc hfile hon =>
      simp only [FileTree.makeAlong, hfile, List.isEmpty_eq_false_iff.mpr hon, Bool.false_eq_true,
        if_false]
  | further hloc hrest ih =>
      simp only [FileTree.makeAlong, hrest.start]
      exact ih

theorem IsBlocked.makeAlong_front {front : List String} (hfront : front <+: names)
    (h : IsBlocked t loc names) : (t.makeAlong loc front).1 = t := by
  induction h generalizing front with
  | here hloc hfile hon =>
      cases front with
      | nil => rfl
      | cons first more =>
          rw [(List.cons_prefix_cons.mp hfront).1]
          simp only [FileTree.makeAlong, hfile]
  | further hloc hrest ih =>
      cases front with
      | nil => rfl
      | cons first more =>
          rcases List.cons_prefix_cons.mp hfront with ⟨rfl, hmore⟩
          simp only [FileTree.makeAlong, hrest.start]
          exact ih hmore

theorem IsBlocked.lookup (h : IsBlocked t (startOf cwd path) (PathText.names path))
    (hpath : path.isEmpty = false) : t.lookup cwd path = .error .notADirectory := by
  unfold FileTree.lookup locate
  simp only [hpath, Bool.false_eq_true, if_false, h.follow]

theorem IsBlocked.makeDirectories (h : IsBlocked t (startOf cwd path) (PathText.names path))
    (hpath : path.isEmpty = false) : ∃ kind, t.makeDirectories cwd path = (t, .error kind) := by
  have hfront := h.makeAlong_front (isPrefix_dropLast_withoutPoints (PathText.names path))
  unfold FileTree.makeDirectories
  simp only [hpath, Bool.false_eq_true, if_false]
  by_cases hbare : (withoutPoints (PathText.names path)).length = (PathText.names path).length
  · rw [if_pos hbare, h.makeAlong]
    exact ⟨_, rfl⟩
  · rw [if_neg hbare]
    rcases hmade : t.makeAlong (startOf cwd path) (withoutPoints (PathText.names path)).dropLast with
      ⟨made, outcome⟩
    rw [hmade] at hfront
    cases hfront
    cases outcome with
    | error kind => exact ⟨kind, rfl⟩
    | ok found =>
        dsimp only
        rw [h.lookup hpath]
        exact ⟨_, rfl⟩

end

end FileTree
end TileAudit
