import TileAudit.Proofs.FileTree.Directories

/-!
# Contents of files

A file that was written at a path is read there. What it holds stays when directories are made and
when a file is written at another place.
-/

namespace TileAudit
namespace FileTree

open PathText

/-!
## Paths that name a file

A path that does not end in a slash has a last name. Where a file is written, this name is in a
directory and is not that of one.
-/

theorem exists_piece_ne_nil {text : List Char} (h : text ≠ []) (hlast : text.getLast? ≠ some '/') :
    ∃ piece ∈ pieces text, piece ≠ [] := by
  induction text with
  | nil => exact absurd rfl h
  | cons c rest ih =>
      by_cases hslash : c = '/'
      · rw [pieces_cons_slash rest hslash]
        cases rest with
        | nil => exact absurd (by rw [hslash]; rfl) hlast
        | cons d more =>
            rw [List.getLast?_cons_cons] at hlast
            rcases ih (by simp) hlast with ⟨piece, hpiece, hne⟩
            exact ⟨piece, List.mem_cons_of_mem _ hpiece, hne⟩
      · cases hpieces : pieces rest with
        | nil => exact absurd hpieces (pieces_ne_nil rest)
        | cons piece more =>
            rw [pieces_cons_other hslash hpieces]
            exact ⟨c :: piece, List.mem_cons_self, by simp⟩

theorem names_ne_nil {path : String} (hempty : path.isEmpty = false)
    (hslash : endsInSlash path = false) : names path ≠ [] := by
  have htext : path.toList ≠ [] := by
    intro hnil
    simp [← String.toList_eq_nil_iff, hnil] at hempty
  rcases exists_piece_ne_nil htext (of_decide_eq_false hslash) with ⟨piece, hpiece, hne⟩
  intro hnone
  have hmem : String.ofList piece ∈ names path := by
    apply List.mem_map_of_mem
    apply List.mem_filter.mpr
    refine ⟨hpiece, ?_⟩
    cases piece with
    | nil => exact absurd rfl hne
    | cons c rest => rfl
  rw [hnone] at hmem
  cases hmem

section

variable {t t' : FileTree} {cwd loc : Location} {path : String} {content : Content}

theorem parent_of_follow {start : Location} {front : List String} {last : String}
    (h : t.follow start (front ++ [last]) = .ok loc) (hfree : t.entry? loc ≠ some .directory) :
    ∃ dir, loc = dir ++ [last] ∧ t.entry? dir = some .directory ∧ last ≠ "." := by
  cases hfront : t.follow start front with
  | error kind =>
      rw [follow_append_error hfront] at h
      cases h
  | ok dir =>
      rw [follow_append hfront, follow] at h
      cases hentry : t.entry? dir with
      | none =>
          rw [hentry] at h
          cases h
      | some entry =>
          cases entry with
          | file content executable =>
              rw [hentry] at h
              cases h
          | directory =>
              rw [hentry] at h
              simp only [follow] at h
              by_cases hpoint : last = "."
              · rw [step, if_pos hpoint] at h
                cases h
                exact absurd hentry hfree
              · by_cases hpoints : last = ".."
                · rw [step, if_neg hpoint, if_pos hpoints] at h
                  cases h
                  rcases List.eq_nil_or_concat dir with hroot | ⟨above, name, hdir⟩
                  · rw [hroot] at hfree
                    exact absurd t.entry?_root hfree
                  · rw [hdir, List.concat_eq_append, List.dropLast_concat] at hfree
                    rw [hdir, List.concat_eq_append] at hentry
                    exact absurd (entry?_parent t hentry) hfree
                · rw [step, if_neg hpoint, if_neg hpoints] at h
                  cases h
                  exact ⟨dir, rfl, hentry, hpoint⟩

theorem exists_of_filePlace {executable : Bool}
    (h : t.filePlace cwd path = .ok (loc, executable)) :
    ∃ dir name, loc = dir ++ [name] ∧ t.locate cwd path = .ok loc ∧
      t.entry? dir = some .directory ∧ t.entry? loc ≠ some .directory ∧
      wantsDirectory path = false := by
  unfold filePlace at h
  cases hlocate : t.locate cwd path with
  | error kind =>
      rw [hlocate] at h
      cases h
  | ok place =>
      rw [hlocate] at h
      dsimp only at h
      cases hslash : endsInSlash path with
      | true =>
          rw [hslash, if_pos rfl] at h
          cases h
      | false =>
          rw [hslash, if_neg Bool.false_ne_true] at h
          have hempty : path.isEmpty = false := by
            cases hpath : path.isEmpty with
            | false => rfl
            | true =>
                rw [locate, if_pos hpath] at hlocate
                cases hlocate
          have hfree : t.entry? place ≠ some .directory := by
            intro hdirectory
            rw [hdirectory] at h
            cases h
          have hplace : place = loc := by
            cases hentry : t.entry? place with
            | none =>
                rw [hentry] at h
                cases h
                rfl
            | some entry =>
                rw [hentry] at h
                cases entry with
                | directory => cases h
                | file old executable' =>
                    cases h
                    rfl
          subst hplace
          have hfollow := hlocate
          rw [locate, hempty, if_neg Bool.false_ne_true] at hfollow
          rcases List.eq_nil_or_concat (names path) with hnone | ⟨front, last, hnames⟩
          · exact absurd hnone (names_ne_nil hempty hslash)
          · rw [hnames, List.concat_eq_append] at hfollow
            rcases parent_of_follow hfollow hfree with ⟨dir, hdir, hdirectory, hpoint⟩
            refine ⟨dir, last, hdir, rfl, hdirectory, hfree, ?_⟩
            unfold wantsDirectory
            rw [hslash, hnames, List.concat_eq_append, List.getLast?_concat]
            simp [hpoint]

theorem writeContent_of_no_place {kind : IoKind} (h : t.filePlace cwd path = .error kind)
    (content : Content) : t.writeContent cwd path content = .error kind := by
  unfold writeContent
  rw [h]

theorem writeContent_of_filePlace {executable : Bool}
    (h : t.filePlace cwd path = .ok (loc, executable)) (content : Content) :
    t.writeContent cwd path content = .ok (t.insert loc (.file content executable)) := by
  rcases exists_of_filePlace h with ⟨dir, name, rfl, _⟩
  have hroot : (dir ++ [name]).isEmpty = false := by simp
  simp only [writeContent, h, hroot, Bool.false_eq_true, if_false]

/-- What writing a file at a path does, when it is not refused: the file is put at the last name
of the path, in a directory and not in the place of one. -/
theorem exists_of_writeContent (h : t.writeContent cwd path content = .ok t') :
    ∃ dir name executable, t.locate cwd path = .ok (dir ++ [name]) ∧
      t.entry? dir = some .directory ∧ t.entry? (dir ++ [name]) ≠ some .directory ∧
      wantsDirectory path = false ∧ t' = t.insert (dir ++ [name]) (.file content executable) := by
  cases hplace : t.filePlace cwd path with
  | error kind =>
      rw [writeContent_of_no_place hplace content] at h
      cases h
  | ok place =>
      rcases place with ⟨loc, executable⟩
      rw [writeContent_of_filePlace hplace content] at h
      rcases exists_of_filePlace hplace with ⟨dir, name, rfl, hlocate, hdir, hfree, hwants⟩
      cases h
      exact ⟨dir, name, executable, hlocate, hdir, hfree, hwants, rfl⟩

theorem locate_of_directories_kept
    (hkept : ∀ l, t.entry? l = some .directory → t'.entry? l = some .directory)
    (h : t.locate cwd path = .ok loc) : t'.locate cwd path = .ok loc := by
  unfold locate at h ⊢
  by_cases hempty : path.isEmpty = true
  · rw [if_pos hempty] at h
    cases h
  · rw [if_neg hempty] at h ⊢
    exact follow_of_directories_kept hkept h

theorem readContent_eq_ok_iff :
    t.readContent cwd path = .ok content ↔
      ∃ loc executable, t.lookup cwd path = .ok (loc, .file content executable) := by
  unfold readContent
  constructor
  · intro h
    cases hlookup : t.lookup cwd path with
    | error kind =>
        rw [hlookup] at h
        cases h
    | ok found =>
        rw [hlookup] at h
        rcases found with ⟨loc, entry⟩
        cases entry with
        | directory => cases h
        | file data executable =>
            cases h
            exact ⟨loc, executable, rfl⟩
  · rintro ⟨loc, executable, hlookup⟩
    rw [hlookup]

theorem exists_of_readContent (h : t.readContent cwd path = .ok content) :
    ∃ loc executable, t.locate cwd path = .ok loc ∧ wantsDirectory path = false ∧
      t.entry? loc = some (.file content executable) := by
  rcases readContent_eq_ok_iff.mp h with ⟨loc, executable, hlookup⟩
  unfold lookup at hlookup
  cases hlocate : t.locate cwd path with
  | error kind =>
      rw [hlocate] at hlookup
      cases hlookup
  | ok place =>
      rw [hlocate] at hlookup
      dsimp only at hlookup
      cases hentry : t.entry? place with
      | none =>
          rw [hentry] at hlookup
          cases hlookup
      | some entry =>
          rw [hentry] at hlookup
          cases entry with
          | directory => cases hlookup
          | file found executable' =>
              cases hwants : wantsDirectory path with
              | true =>
                  simp only [hwants, if_true] at hlookup
                  cases hlookup
              | false =>
                  simp only [hwants, Bool.false_eq_true, if_false] at hlookup
                  cases hlookup
                  exact ⟨loc, executable, rfl, rfl, hentry⟩

theorem readContent_of_locate {executable : Bool} (hlocate : t.locate cwd path = .ok loc)
    (hwants : wantsDirectory path = false)
    (hfile : t.entry? loc = some (.file content executable)) :
    t.readContent cwd path = .ok content := by
  apply readContent_eq_ok_iff.mpr
  refine ⟨loc, executable, ?_⟩
  unfold lookup
  simp only [hlocate, hfile, hwants, Bool.false_eq_true, if_false]

theorem directories_kept_of_insert {name : String} {executable : Bool}
    (hfree : t.entry? (loc ++ [name]) ≠ some .directory) {l : Location}
    (hl : t.entry? l = some .directory) :
    FileTree.entry? (t.insert (loc ++ [name]) (.file content executable)) l = some .directory := by
  have hne : l ≠ loc ++ [name] := by
    rintro rfl
    exact hfree hl
  rw [entry?_insert_of_ne t _ hne]
  exact hl

theorem readContent_of_writeContent (h : t.writeContent cwd path content = .ok t') :
    t'.readContent cwd path = .ok content := by
  rcases exists_of_writeContent h with
    ⟨dir, name, executable, hlocate, hdir, hfree, hwants, rfl⟩
  have hplace := locate_of_directories_kept
    (fun l => @directories_kept_of_insert t dir content name executable hfree l) hlocate
  exact readContent_of_locate hplace hwants (entry?_insert_self t (fits_file t hdir hfree))

/-!
## Files that are left alone

A file holds what it held as long as every entry is kept, so directories that are made and files at
other places do no harm.
-/

theorem readContent_of_entries_kept
    (hkept : ∀ l entry, t.entry? l = some entry → t'.entry? l = some entry)
    (h : t.readContent cwd path = .ok content) : t'.readContent cwd path = .ok content := by
  rcases exists_of_readContent h with ⟨place, executable, hlocate, hwants, hfile⟩
  have hplace := locate_of_directories_kept (fun l => hkept l .directory) hlocate
  exact readContent_of_locate hplace hwants (hkept place _ hfile)

theorem readContent_of_makeParents (other : String)
    (h : t.readContent cwd path = .ok content) :
    FileTree.readContent (t.makeParents cwd other).1 cwd path = .ok content :=
  readContent_of_entries_kept (fun _ _ hentry => makeAlong_keeps t _ _ hentry) h

theorem readContent_of_written_elsewhere {other : String} {new : Content}
    (hplaces : t.locate cwd path ≠ t.locate cwd other)
    (hwrite : t.writeContent cwd other new = .ok t')
    (h : t.readContent cwd path = .ok content) : t'.readContent cwd path = .ok content := by
  rcases exists_of_readContent h with ⟨place, executable, hlocate, hwants, hfile⟩
  rcases exists_of_writeContent hwrite with
    ⟨dir, name, executable', hother, _, hfree, _, rfl⟩
  have hne : place ≠ dir ++ [name] := by
    rintro rfl
    exact hplaces (hlocate.trans hother.symm)
  have hplace := locate_of_directories_kept
    (fun l => @directories_kept_of_insert t dir new name executable' hfree l) hlocate
  apply readContent_of_locate hplace hwants
  rw [entry?_insert_of_ne t _ hne]
  exact hfile

theorem locate_join_ne {dir dir' name other : String} (hname : IsName name)
    (hother : IsName other) (hne : name ≠ other) (h : t.locate cwd (join dir name) = .ok loc) :
    t.locate cwd (join dir name) ≠ t.locate cwd (join dir' other) := by
  intro hsame
  rcases leads_of_locate_join hname h with ⟨place, _, hplace⟩
  rcases leads_of_locate_join hother (hsame.symm.trans h) with ⟨place', _, hplace'⟩
  have hnames : [name] = [other] :=
    List.append_inj_right' (hplace.symm.trans hplace') rfl
  exact hne (List.singleton_inj.mp hnames)

end

end FileTree
end TileAudit
