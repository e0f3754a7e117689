import TileAudit.FileTree.Basic

/-!
# Entries of file trees

What is at a location after each change to a file tree. Since every entry lies in a
directory, nothing lies below a file or below a place where nothing is, and an entry is
seen from its directory.
-/

namespace TileAudit
namespace FileTree

/-!
## Entries and the directories they lie in

What is somewhere lies in a directory, so all that is above an entry is a directory and nothing is
below a place that is none.
-/

@[simp]
theorem entry?_root (t : FileTree) : t.entry? [] = some .directory := by
  simp [entryIn, entry?]

theorem entry?_of_ne_root (t : FileTree) {loc : Location} (hloc : loc ≠ []) :
    t.entry? loc = t.entries.lookup loc := by
  simp [entryIn, entry?, hloc]

theorem isDirectory_iff (t : FileTree) (loc : Location) :
    t.isDirectory loc = true ↔ t.entry? loc = some .directory := by
  unfold isDirectory directoryIn entry?
  cases hentry : entryIn t.entries loc with
  | none => simp
  | some entry =>
      cases entry with
      | directory => simp [Entry.isDirectory]
      | file content executable => simp [Entry.isDirectory]

theorem lookup_isSome_of_mem {entries : List (Location × Entry)} {e : Location × Entry}
    (he : e ∈ entries) : (entries.lookup e.1).isSome = true := by
  induction entries with
  | nil => cases he
  | cons first rest ih =>
      rcases first with ⟨key, entry⟩
      rw [List.lookup_cons]
      cases hkey : e.1 == key with
      | true => rfl
      | false =>
          rcases List.mem_cons.mp he with rfl | hrest
          · simp at hkey
          · exact ih hrest

theorem mem_of_lookup {entries : List (Location × Entry)} {loc : Location} {entry : Entry}
    (h : entries.lookup loc = some entry) : (loc, entry) ∈ entries := by
  induction entries with
  | nil => cases h
  | cons first rest ih =>
      rcases first with ⟨key, found⟩
      rw [List.lookup_cons] at h
      cases hkey : loc == key with
      | true =>
          rw [hkey] at h
          rw [eq_of_beq hkey]
          cases h
          exact List.mem_cons_self
      | false =>
          rw [hkey] at h
          exact List.mem_cons_of_mem _ (ih h)

theorem entry?_parent (t : FileTree) {dir : Location} {name : String} {entry : Entry}
    (h : t.entry? (dir ++ [name]) = some entry) : t.entry? dir = some .directory := by
  rw [entry?_of_ne_root t (by simp)] at h
  have hparent := (t.closed _ (mem_of_lookup h)).2
  rw [List.dropLast_concat] at hparent
  exact (isDirectory_iff t dir).mp hparent

theorem entry?_above (t : FileTree) {dir rest : Location} {entry : Entry} (hrest : rest ≠ [])
    (h : t.entry? (dir ++ rest) = some entry) : t.entry? dir = some .directory := by
  induction rest generalizing dir with
  | nil => exact absurd rfl hrest
  | cons name rest ih =>
      have hsplit : dir ++ name :: rest = (dir ++ [name]) ++ rest := by simp
      rw [hsplit] at h
      by_cases hlast : rest = []
      · rw [hlast, List.append_nil] at h
        exact entry?_parent t h
      · exact entry?_parent t (ih hlast h)

theorem directory_above {t : FileTree} {above place : Location} (habove : above <+: place)
    (hplace : t.entry? place = some .directory) : t.entry? above = some .directory := by
  rcases habove with ⟨rest, rfl⟩
  by_cases hrest : rest = []
  · rw [hrest, List.append_nil] at hplace
    exact hplace
  · exact entry?_above t hrest hplace

theorem entry?_below (t : FileTree) {dir rest : Location} (hrest : rest ≠ [])
    (h : t.entry? dir ≠ some .directory) : t.entry? (dir ++ rest) = none := by
  cases hentry : t.entry? (dir ++ rest) with
  | none => rfl
  | some entry => exact absurd (entry?_above t hrest hentry) h

theorem children_isEmpty_iff (t : FileTree) (dir : Location) :
    (t.children dir).isEmpty = true ↔ ∀ name, t.entry? (dir ++ [name]) = none := by
  rw [List.isEmpty_iff]
  unfold children
  rw [List.filterMap_eq_nil_iff]
  constructor
  · intro hnone name
    cases hentry : t.entry? (dir ++ [name]) with
    | none => rfl
    | some entry =>
        rw [entry?_of_ne_root t (by simp)] at hentry
        have hname := hnone _ (mem_of_lookup hentry)
        simp at hname
  · intro hnone e he
    by_cases hdir : e.1.dropLast = dir
    · have hne := (t.closed e he).1
      have hlast : e.1 = dir ++ [e.1.getLast hne] := by
        rw [← hdir, List.dropLast_concat_getLast]
      have hsome := lookup_isSome_of_mem he
      rw [← entry?_of_ne_root t hne, hlast, hnone] at hsome
      cases hsome
    · simp [hdir]

/-!
## Entries after a change

After a change the changed place is as it was asked for, and every other location is as it was.
-/

theorem entry?_insert_self (t : FileTree) {loc : Location} {entry : Entry}
    (h : t.fits loc entry = true) : entry? (t.insert loc entry) loc = some entry := by
  have hloc : loc ≠ [] := by
    intro hroot
    simp [fits, hroot] at h
  rw [insert, dif_pos h, entry?_of_ne_root _ hloc]
  exact lookup_putEntry_self t.entries loc entry

theorem entry?_insert_of_ne (t : FileTree) {loc other : Location} (entry : Entry)
    (hne : other ≠ loc) : entry? (t.insert loc entry) other = t.entry? other := by
  unfold insert
  by_cases h : t.fits loc entry = true
  · rw [dif_pos h]
    by_cases hroot : other = []
    · rw [hroot, entry?_root, entry?_root]
    · rw [entry?_of_ne_root _ hroot, entry?_of_ne_root _ hroot]
      exact lookup_putEntry_of_ne t.entries entry hne
  · rw [dif_neg h]

theorem fits_directory (t : FileTree) {dir : Location} {name : String}
    (h : t.entry? dir = some .directory) : t.fits (dir ++ [name]) .directory = true := by
  have hdir := (isDirectory_iff t dir).mpr h
  simp [fits, hdir, Entry.isDirectory]

theorem fits_file (t : FileTree) {dir : Location} {name : String} {content : Content}
    {executable : Bool} (h : t.entry? dir = some .directory)
    (hfree : t.entry? (dir ++ [name]) ≠ some .directory) :
    t.fits (dir ++ [name]) (.file content executable) = true := by
  have hdir := (isDirectory_iff t dir).mpr h
  have hfile : t.isDirectory (dir ++ [name]) = false :=
    Bool.eq_false_iff.mpr fun htrue => hfree ((isDirectory_iff t _).mp htrue)
  simp [fits, hdir, hfile]

theorem entry?_erase (t : FileTree) {root : Location} (hroot : root ≠ []) (loc : Location) :
    entry? (t.erase root) loc = if root <+: loc then none else t.entry? loc := by
  by_cases hloc : loc = []
  · have hnot : ¬ root <+: [] := fun h => hroot (List.prefix_nil.mp h)
    rw [hloc, if_neg hnot, entry?_root, entry?_root]
  · rw [entry?_of_ne_root _ hloc, entry?_of_ne_root _ hloc]
    show (t.entries.filter fun e => !root.isPrefixOf e.1).lookup loc = _
    by_cases hbelow : root <+: loc
    · rw [if_pos hbelow]
      apply lookup_filter_dropped t.entries (fun l => !root.isPrefixOf l)
      simpa using hbelow
    · rw [if_neg hbelow]
      have hkept : root.isPrefixOf loc = false :=
        Bool.eq_false_iff.mpr fun h => hbelow (List.isPrefixOf_iff_prefix.mp h)
      apply lookup_filter t.entries (fun l => !root.isPrefixOf l)
      rw [hkept]
      rfl

theorem isBelow_iff {above loc : Location} :
    isBelow above loc = true ↔ above <+: loc ∧ loc ≠ above := by
  simp [isBelow]

theorem entry?_clear (t : FileTree) (above loc : Location) :
    entry? (t.clear above) loc = if above <+: loc ∧ loc ≠ above then none else t.entry? loc := by
  by_cases hloc : loc = []
  · have hnot : ¬ (above <+: [] ∧ [] ≠ above) := fun h => h.2 (List.prefix_nil.mp h.1).symm
    rw [hloc, if_neg hnot, entry?_root, entry?_root]
  · rw [entry?_of_ne_root _ hloc, entry?_of_ne_root _ hloc]
    show (t.entries.filter fun e => !isBelow above e.1).lookup loc = _
    by_cases hbelow : above <+: loc ∧ loc ≠ above
    · rw [if_pos hbelow]
      apply lookup_filter_dropped t.entries (fun l => !isBelow above l)
      rw [isBelow_iff.mpr hbelow]
      rfl
    · rw [if_neg hbelow]
      apply lookup_filter t.entries (fun l => !isBelow above l)
      rw [Bool.eq_false_iff.mpr (mt isBelow_iff.mp hbelow)]
      rfl

theorem directory_clear {t : FileTree} {loc : Location} (h : t.entry? loc = some .directory) :
    entry? (t.clear loc) loc = some .directory := by
  rw [entry?_clear, if_neg fun hbelow => hbelow.2 rfl]
  exact h

end FileTree
end TileAudit
