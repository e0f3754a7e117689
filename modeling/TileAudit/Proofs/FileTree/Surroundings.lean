import TileAudit.Proofs.FileTree.Directories

/-!
# Changes within a directory

A path that leads to a directory needs nothing made on its way. A directory or a file that is made
with a name in it leaves everything around the directory as it was.
-/

namespace TileAudit
namespace FileTree

open PathText

/-- Trees that differ at most strictly below a place. -/
def SameAround (place : Location) (before after : FileTree) : Prop :=
  ∀ other, ¬ (place <+: other ∧ other ≠ place) → after.entry? other = before.entry? other

section

variable {place : Location} {before middle after : FileTree}

theorem SameAround.refl (place : Location) (t : FileTree) : SameAround place t t :=
  fun _ _ => rfl

theorem SameAround.trans (h : SameAround place before middle) (h' : SameAround place middle after) :
    SameAround place before after := by
  intro other hother
  rw [h' other hother, h other hother]

theorem SameAround.directory (h : SameAround place before after)
    (hplace : before.entry? place = some .directory) : after.entry? place = some .directory := by
  rw [h place fun hbelow => hbelow.2 rfl]
  exact hplace

theorem entry?_insert_sibling (t : FileTree) (entry : Entry) {name other : String}
    (h : other ≠ name) :
    entry? (t.insert (place ++ [name]) entry) (place ++ [other]) = t.entry? (place ++ [other]) := by
  apply entry?_insert_of_ne
  intro hsame
  exact h (List.singleton_inj.mp (List.append_cancel_left hsame))

theorem sameAround_insert (place : Location) (t : FileTree) (name : String) (entry : Entry) :
    SameAround place t (t.insert (place ++ [name]) entry) := by
  intro other hother
  apply entry?_insert_of_ne
  rintro rfl
  exact hother ⟨List.prefix_append _ _, by simp⟩

end

/-- A directory that was made for a place: the place itself or one above it. -/
def IsMadeAbove (before after : FileTree) (place other : Location) : Prop :=
  other <+: place ∧ before.entry? other = none ∧ after.entry? other = some .directory

section

variable {t t' : FileTree} {loc found : Location}

theorem directory_of_follow {names : List String} (h : t.follow loc names = .ok found)
    (hfound : t.entry? found = some .directory) : t.entry? loc = some .directory := by
  cases names with
  | nil =>
      rw [follow] at h
      cases h
      exact hfound
  | cons name rest =>
      rw [follow] at h
      cases hentry : t.entry? loc with
      | none =>
          rw [hentry] at h
          cases h
      | some entry =>
          cases entry with
          | file content executable =>
              rw [hentry] at h
              cases h
          | directory => rfl

theorem makeAlong_of_follow {names : List String} (h : t.follow loc names = .ok found)
    (hfound : t.entry? found = some .directory) : t.makeAlong loc names = (t, .ok found) := by
  induction names generalizing loc with
  | nil =>
      rw [follow] at h
      cases h
      rfl
  | cons name rest ih =>
      rw [follow_cons_directory (directory_of_follow h hfound)] at h
      simp only [makeAlong, directory_of_follow h hfound]
      exact ih h

theorem makeAlong_append {first : List String} (h : t.makeAlong loc first = (t', .ok found))
    (second : List String) : t.makeAlong loc (first ++ second) = t'.makeAlong found second := by
  induction first generalizing t loc with
  | nil =>
      rw [makeAlong] at h
      cases h
      rfl
  | cons name rest ih =>
      rw [makeAlong] at h
      rw [List.cons_append, makeAlong]
      cases hentry : t.entry? (step loc name) with
      | none =>
          simp only [hentry] at h ⊢
          exact ih h
      | some entry =>
          cases entry with
          | directory =>
              simp only [hentry] at h ⊢
              exact ih h
          | file content executable =>
              simp only [hentry] at h
              cases h

theorem follow_points {points : List String} (hpoints : ∀ point ∈ points, point = ".")
    (h : t.follow loc points = .ok found) : found = loc := by
  induction points generalizing loc with
  | nil =>
      rw [follow] at h
      cases h
      rfl
  | cons point rest ih =>
      rw [follow] at h
      cases hentry : t.entry? loc with
      | none =>
          rw [hentry] at h
          cases h
      | some entry =>
          cases entry with
          | file content executable =>
              rw [hentry] at h
              cases h
          | directory =>
              rw [hentry, hpoints point List.mem_cons_self] at h
              exact ih (fun other hother => hpoints other (List.mem_cons_of_mem _ hother)) h

end

theorem withoutPoints_concat {last : String} (h : last ≠ ".") (front : List String) :
    withoutPoints (front ++ [last]) = front ++ [last] := by
  unfold withoutPoints
  rw [List.reverse_append, List.reverse_singleton, List.singleton_append,
    List.dropWhile_cons_of_neg (by simpa using h), List.reverse_cons, List.reverse_reverse]

theorem exists_points (names : List String) :
    ∃ points, (∀ point ∈ points, point = ".") ∧ names = withoutPoints names ++ points := by
  refine ⟨(names.reverse.takeWhile (· = ".")).reverse, ?_, ?_⟩
  · intro point hpoint
    exact of_decide_eq_true
      (List.all_eq_true.mp List.all_takeWhile point (List.mem_reverse.mp hpoint))
  · unfold withoutPoints
    rw [← List.reverse_append, List.takeWhile_append_dropWhile, List.reverse_reverse]

section

variable {t t' : FileTree} {cwd loc : Location} {dir name : String}

theorem Leads.of_kept (h : Leads t cwd dir loc)
    (hkept : ∀ l, t.entry? l = some .directory → t'.entry? l = some .directory) :
    Leads t' cwd dir loc :=
  ⟨follow_of_directories_kept hkept h.follows, hkept loc h.directory⟩

theorem Leads.of_inserted (h : Leads t cwd dir loc) {entry : Entry}
    (hfree : t.entry? (loc ++ [name]) ≠ some .directory) :
    Leads (t.insert (loc ++ [name]) entry) cwd dir loc := by
  apply h.of_kept
  intro l hl
  have hne : l ≠ loc ++ [name] := by
    rintro rfl
    exact hfree hl
  rw [entry?_insert_of_ne t entry hne]
  exact hl

theorem Leads.follow_withoutPoints (h : Leads t cwd dir loc) :
    t.follow (startOf cwd dir) (withoutPoints (names dir)) = .ok loc := by
  rcases exists_points (names dir) with ⟨points, hpoints, hnames⟩
  have hfollows := h.follows
  rw [hnames] at hfollows
  cases hbare : t.follow (startOf cwd dir) (withoutPoints (names dir)) with
  | error kind =>
      rw [follow_append_error hbare] at hfollows
      cases hfollows
  | ok place =>
      rw [follow_append hbare] at hfollows
      rw [follow_points hpoints hfollows]

theorem Leads.makeDirectories_join (h : Leads t cwd dir loc) (hname : IsName name)
    (hfree : t.entry? (loc ++ [name]) = none) :
    t.makeDirectories cwd (join dir name) = (t.insert (loc ++ [name]) .directory, .ok ()) := by
  have hlast : t.makeAlong loc [name] =
      (t.insert (loc ++ [name]) .directory, .ok (loc ++ [name])) := by
    simp only [makeAlong, step_name hname, hfree]
  have hway := makeAlong_append (makeAlong_of_follow h.follows h.directory) [name]
  unfold makeDirectories
  simp only [hname.join_isEmpty, hname.names_join_eq, withoutPoints_concat hname.ne_point,
    startOf_join hname, Bool.false_eq_true, if_false, if_true, hway, hlast]
  rfl

theorem Leads.makeParents_join (h : Leads t cwd dir loc) (hname : IsName name) :
    t.makeParents cwd (join dir name) = (t, .ok ()) := by
  have hway := makeAlong_of_follow h.follow_withoutPoints h.directory
  unfold makeParents
  rw [hname.names_join_eq, List.dropLast_concat, startOf_join hname, hway]
  rfl

theorem Leads.writeContent_join_file (h : Leads t cwd dir loc) (hname : IsName name)
    {old : Content} {executable : Bool}
    (hfile : t.entry? (loc ++ [name]) = some (.file old executable)) (content : Content) :
    t.writeContent cwd (join dir name) content =
      .ok (t.insert (loc ++ [name]) (.file content executable)) := by
  have hroot : (loc ++ [name]).isEmpty = false := by simp
  unfold writeContent filePlace
  simp only [h.locate_join hname, hname.endsInSlash_join, hfile, hroot, Bool.false_eq_true,
    if_false]

theorem Leads.writeContent_join_none (h : Leads t cwd dir loc) (hname : IsName name)
    (hfree : t.entry? (loc ++ [name]) = none) (content : Content) :
    t.writeContent cwd (join dir name) content =
      .ok (t.insert (loc ++ [name]) (.file content false)) := by
  rcases h.writeContent_join hname (by rw [hfree]; simp) content with
    ⟨executable, hnew, hwrite⟩
  rw [hwrite, hnew hfree]

end

end FileTree
end TileAudit
