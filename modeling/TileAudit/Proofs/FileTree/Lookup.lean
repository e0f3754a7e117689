import TileAudit.FileTree.Operations
import TileAudit.Proofs.FileTree.Entries
import TileAudit.Proofs.FileTree.PathText

/-!
# Following paths

Where a path leads. A path leads to a directory when every name on its way is in a
directory and so is its end; a name in that directory is then looked up, read and written
at one location, however the path is written.
-/

namespace TileAudit
namespace FileTree

open PathText

theorem follow_cons_directory {t : FileTree} {loc : Location}
    (h : t.entry? loc = some .directory) (name : String) (rest : List String) :
    t.follow loc (name :: rest) = t.follow (step loc name) rest := by
  rw [follow, h]

theorem follow_append {t : FileTree} {loc found : Location} {first : List String}
    (h : t.follow loc first = .ok found) (second : List String) :
    t.follow loc (first ++ second) = t.follow found second := by
  induction first generalizing loc with
  | nil =>
      rw [follow] at h
      cases h
      rfl
  | cons name rest ih =>
      rw [List.cons_append]
      rw [follow] at h
      cases hentry : t.entry? loc with
      | none =>
          rw [hentry] at h
          cases h
      | some entry =>
          cases entry with
          | file content executable =>
              rw [hentry] at h
              cases h
          | directory =>
              rw [hentry] at h
              rw [follow_cons_directory hentry]
              exact ih h

theorem follow_append_error {t : FileTree} {loc : Location} {first : List String} {kind : IoKind}
    (h : t.follow loc first = .error kind) (second : List String) :
    t.follow loc (first ++ second) = .error kind := by
  induction first generalizing loc with
  | nil =>
      rw [follow] at h
      cases h
  | cons name rest ih =>
      rw [List.cons_append, follow]
      rw [follow] at h
      cases hentry : t.entry? loc with
      | none =>
          rw [hentry] at h
          exact h
      | some entry =>
          rw [hentry] at h
          cases entry with
          | file content executable => exact h
          | directory => exact ih h

theorem follow_of_directories_kept {t t' : FileTree}
    (hkept : ∀ loc, t.entry? loc = some .directory → t'.entry? loc = some .directory)
    {loc found : Location} {names : List String} (h : t.follow loc names = .ok found) :
    t'.follow loc names = .ok found := by
  induction names generalizing loc with
  | nil => exact h
  | cons name rest ih =>
      rw [follow] at h
      cases hentry : t.entry? loc with
      | none =>
          rw [hentry] at h
          cases h
      | some entry =>
          cases entry with
          | file content executable =>
              rw [hentry] at h
              cases h
          | directory =>
              rw [hentry] at h
              rw [follow_cons_directory (hkept loc hentry)]
              exact ih h

/-!
## The directory that a path leads to

A name in a directory that a path leads to has one location. The operations on the joined path are
the operations on that location.
-/

/-- A path that leads to a directory of the tree. -/
structure Leads (t : FileTree) (cwd : Location) (path : String) (loc : Location) : Prop where
  follows : t.follow (startOf cwd path) (names path) = .ok loc
  directory : t.entry? loc = some .directory

section

variable {t : FileTree} {cwd loc : Location} {dir name : String}

theorem startOf_join (hname : IsName name) (cwd : Location) (dir : String) :
    startOf cwd (join dir name) = startOf cwd dir := by
  unfold startOf
  cases hempty : dir.isEmpty with
  | false => rw [isAbsolute_join hname.isAbsolute_eq hempty]
  | true =>
      have hdir : isAbsolute dir = false := by
        simp [isAbsolute, toList_isEmpty hempty]
      have hjoin : join dir name = name := by
        have hnil : dir = "" := String.toList_eq_nil_iff.mp (toList_isEmpty hempty)
        simp [join, hname.isAbsolute_eq, hnil]
      rw [hjoin, hname.isAbsolute_eq, hdir]

theorem step_name (hname : IsName name) (loc : Location) : step loc name = loc ++ [name] := by
  simp [step, hname.ne_point, hname.ne_points]

theorem Leads.locate_join (h : Leads t cwd dir loc) (hname : IsName name) :
    t.locate cwd (join dir name) = .ok (loc ++ [name]) := by
  unfold locate
  rw [hname.join_isEmpty, if_neg Bool.false_ne_true, startOf_join hname, hname.names_join_eq,
    follow_append h.follows, follow_cons_directory h.directory, step_name hname, follow]

theorem leads_of_locate_join {found : Location} (hname : IsName name)
    (h : t.locate cwd (join dir name) = .ok found) :
    ∃ loc, Leads t cwd dir loc ∧ found = loc ++ [name] := by
  unfold locate at h
  rw [hname.join_isEmpty, if_neg Bool.false_ne_true, startOf_join hname,
    hname.names_join_eq] at h
  cases hdir : t.follow (startOf cwd dir) (names dir) with
  | error kind =>
      rw [follow_append_error hdir] at h
      cases h
  | ok loc =>
      rw [follow_append hdir, follow] at h
      cases hentry : t.entry? loc with
      | none =>
          rw [hentry] at h
          cases h
      | some entry =>
          cases entry with
          | file content executable =>
              rw [hentry] at h
              cases h
          | directory =>
              rw [hentry] at h
              simp only [step_name hname, follow] at h
              cases h
              exact ⟨loc, ⟨hdir, hentry⟩, rfl⟩

theorem Leads.lookup (h : Leads t cwd dir loc) (hdir : dir.isEmpty = false) :
    t.lookup cwd dir = .ok (loc, .directory) := by
  unfold FileTree.lookup locate
  simp only [hdir, Bool.false_eq_true, if_false, h.follows, h.directory]

theorem Leads.pathExists (h : Leads t cwd dir loc) (hdir : dir.isEmpty = false) :
    t.pathExists cwd dir = true := by
  unfold FileTree.pathExists
  rw [h.lookup hdir]

theorem Leads.lookup_join (h : Leads t cwd dir loc) (hname : IsName name) :
    t.lookup cwd (join dir name) =
      match t.entry? (loc ++ [name]) with
      | none => .error .notFound
      | some entry => .ok (loc ++ [name], entry) := by
  unfold FileTree.lookup
  rw [h.locate_join hname]
  cases hentry : t.entry? (loc ++ [name]) with
  | none => simp only [hentry]
  | some entry =>
      cases entry with
      | directory => simp only [hentry]
      | file content executable =>
          simp only [hentry, hname.wantsDirectory_join, Bool.false_eq_true, if_false]

theorem Leads.pathIsFile_join (h : Leads t cwd dir loc) (hname : IsName name) :
    t.pathIsFile cwd (join dir name) = true ↔
      ∃ content executable, t.entry? (loc ++ [name]) = some (.file content executable) := by
  unfold pathIsFile
  rw [h.lookup_join hname]
  cases hentry : t.entry? (loc ++ [name]) with
  | none => simp
  | some entry =>
      cases entry with
      | directory => simp [Entry.isDirectory]
      | file content executable => simp [Entry.isDirectory]

theorem Leads.writeContent_join (h : Leads t cwd dir loc) (hname : IsName name)
    (hfree : t.entry? (loc ++ [name]) ≠ some .directory) (content : Content) :
    ∃ executable, (t.entry? (loc ++ [name]) = none → executable = false) ∧
      t.writeContent cwd (join dir name) content =
        .ok (t.insert (loc ++ [name]) (.file content executable)) := by
  have hslash := hname.endsInSlash_join dir
  have hroot : (loc ++ [name]).isEmpty = false := by simp
  unfold writeContent filePlace
  rw [h.locate_join hname]
  cases hentry : t.entry? (loc ++ [name]) with
  | none =>
      refine ⟨false, fun _ => rfl, ?_⟩
      simp [hslash, hentry]
  | some entry =>
      cases entry with
      | directory => exact absurd hentry hfree
      | file old executable =>
          refine ⟨executable, fun hnone => ?_, ?_⟩
          · cases hnone
          · simp [hslash, hentry]

end

/-!
## Paths that name their location

An absolute path without points names the location that its names are.
-/

/-- An absolute path other than the root's, without the names for "here" and "above". -/
structure IsPlain (path : String) : Prop where
  absolute : isAbsolute path = true
  ne_root : names path ≠ []
  plain : ∀ name ∈ names path, name ≠ "." ∧ name ≠ ".."

section

variable {t : FileTree} {cwd : Location} {path : String}

theorem step_plain {name : String} (h : name ≠ "." ∧ name ≠ "..") (loc : Location) :
    step loc name = loc ++ [name] := by
  simp [step, h.1, h.2]

theorem follow_plain {names : List String} (hplain : ∀ name ∈ names, name ≠ "." ∧ name ≠ "..")
    {loc : Location} (h : t.entry? (loc ++ names) = some .directory) :
    t.follow loc names = .ok (loc ++ names) := by
  induction names generalizing loc with
  | nil => simp [follow]
  | cons name rest ih =>
      have hloc : t.entry? loc = some .directory := entry?_above t (by simp) h
      have hsplit : loc ++ name :: rest = (loc ++ [name]) ++ rest := by simp
      rw [hsplit] at h ⊢
      rw [follow_cons_directory hloc, step_plain (hplain name List.mem_cons_self)]
      exact ih (fun other hother => hplain other (List.mem_cons_of_mem _ hother)) h

theorem follow_plain_ok {names : List String}
    (hplain : ∀ name ∈ names, name ≠ "." ∧ name ≠ "..") {loc found : Location}
    (h : t.follow loc names = .ok found) : found = loc ++ names := by
  induction names generalizing loc with
  | nil =>
      rw [follow] at h
      cases h
      simp
  | cons name rest ih =>
      rw [follow] at h
      cases hentry : t.entry? loc with
      | none =>
          rw [hentry] at h
          cases h
      | some entry =>
          cases entry with
          | file content executable =>
              rw [hentry] at h
              cases h
          | directory =>
              rw [hentry, step_plain (hplain name List.mem_cons_self)] at h
              have hfound :=
                ih (fun other hother => hplain other (List.mem_cons_of_mem _ hother)) h
              simpa using hfound

theorem IsPlain.startOf_eq (hpath : IsPlain path) (cwd : Location) : startOf cwd path = [] := by
  simp [startOf, hpath.absolute]

theorem IsPlain.not_isEmpty (hpath : IsPlain path) : path.isEmpty = false := by
  cases hempty : path.isEmpty with
  | false => rfl
  | true =>
      have habsolute := hpath.absolute
      simp [isAbsolute, toList_isEmpty hempty] at habsolute

theorem IsPlain.leads (hpath : IsPlain path) (cwd : Location)
    (h : t.entry? (names path) = some .directory) :
    Leads t cwd path (names path) := by
  refine ⟨?_, h⟩
  rw [hpath.startOf_eq]
  exact follow_plain hpath.plain (by simpa using h)

theorem IsPlain.lookup_directory (hpath : IsPlain path)
    (h : t.entry? (names path) = some .directory) :
    t.lookup cwd path = .ok (names path, .directory) :=
  (hpath.leads cwd h).lookup hpath.not_isEmpty

theorem IsPlain.lookup_ne_directory (hpath : IsPlain path)
    (h : t.entry? (names path) ≠ some .directory) (loc : Location) :
    t.lookup cwd path ≠ .ok (loc, .directory) := by
  intro hlookup
  unfold lookup locate at hlookup
  rw [hpath.not_isEmpty, if_neg Bool.false_ne_true, hpath.startOf_eq] at hlookup
  cases hfollow : t.follow [] (names path) with
  | error kind =>
      rw [hfollow] at hlookup
      cases hlookup
  | ok found =>
      have hfound : found = names path := by
        simpa using follow_plain_ok hpath.plain hfollow
      rw [hfollow, hfound] at hlookup
      cases hentry : t.entry? (names path) with
      | none => simp [hentry] at hlookup
      | some entry =>
          cases entry with
          | directory => exact h hentry
          | file content executable =>
              simp only [hentry] at hlookup
              split at hlookup <;> cases hlookup

end

end FileTree
end TileAudit
