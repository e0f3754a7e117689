import TileAudit.Database.Basic

/-!
# File trees

A file tree maps locations to directories and files. A location is the list of names on the
way from the root, which is always a directory. Every entry lies in a directory of the
tree, and the type carries that fact. The main statements say what looking up a location gives
after each change.
-/

namespace TileAudit

abbrev Location := List String

inductive Content where
  | bytes (data : ByteArray)
  | database (db : Database)

namespace Content

/-- The bytes of a file. Of a database only the mark it begins with is known. -/
def toBytes : Content → ByteArray
  | bytes data => data
  | database _ => ⟨"SQLite format 3\x00".toUTF8.data ++ #[0x10, 0x00, 0x81, 0x00]⟩

/-- The content as a database: an empty file is a database without tables. -/
def database? : Content → Option Database
  | database db => some db
  | bytes data => if data.size = 0 then some Database.empty else none

end Content

/-- A directory or a file. There are no symbolic links and no hard links: a location leads to one
entry, and no entry has two locations. -/
inductive Entry where
  | directory
  | file (content : Content) (executable : Bool)

def Entry.isDirectory : Entry → Bool
  | directory => true
  | file _ _ => false

def entryIn (entries : List (Location × Entry)) (loc : Location) : Option Entry :=
  if loc = [] then some .directory else entries.lookup loc

def directoryIn (entries : List (Location × Entry)) (loc : Location) : Bool :=
  match entryIn entries loc with
  | some entry => entry.isDirectory
  | none => false

structure FileTree where
  entries : List (Location × Entry)
  /-- Every entry lies in a directory. -/
  closed : ∀ e ∈ entries, e.1 ≠ [] ∧ directoryIn entries e.1.dropLast = true

namespace FileTree

def empty : FileTree :=
  ⟨[], by simp⟩

def entry? (t : FileTree) (loc : Location) : Option Entry :=
  entryIn t.entries loc

def isDirectory (t : FileTree) (loc : Location) : Bool :=
  directoryIn t.entries loc

theorem lookup_filter (entries : List (Location × Entry)) (keep : Location → Bool)
    {loc : Location} (h : keep loc = true) :
    (entries.filter fun e => keep e.1).lookup loc = entries.lookup loc := by
  induction entries with
  | nil => rfl
  | cons e rest ih =>
      obtain ⟨key, entry⟩ := e
      by_cases hkey : keep key = true
      · simp only [List.filter_cons, hkey, if_true, List.lookup_cons, ih]
      · have hne : (loc == key) = false := by
          apply Bool.eq_false_iff.2
          intro heq
          exact hkey (by rw [← eq_of_beq heq]; exact h)
        simp only [List.filter_cons, hkey, List.lookup_cons, hne, Bool.false_eq_true, if_false]
        exact ih

theorem lookup_filter_dropped (entries : List (Location × Entry)) (keep : Location → Bool)
    {loc : Location} (h : keep loc = false) :
    (entries.filter fun e => keep e.1).lookup loc = none := by
  induction entries with
  | nil => rfl
  | cons e rest ih =>
      obtain ⟨key, entry⟩ := e
      by_cases hkey : keep key = true
      · have hne : (loc == key) = false := by
          apply Bool.eq_false_iff.2
          intro heq
          rw [eq_of_beq heq, hkey] at h
          cases h
        simp only [List.filter_cons, hkey, if_true, List.lookup_cons, hne, ih]
      · simp only [List.filter_cons, hkey, Bool.false_eq_true, if_false]
        exact ih

/-- The entries whose locations are kept. A location may only be dropped together with all
that lies in it. -/
def restrict (t : FileTree) (keep : Location → Bool)
    (up : ∀ loc, keep loc = true → loc.dropLast ≠ [] → keep loc.dropLast = true) : FileTree where
  entries := t.entries.filter fun e => keep e.1
  closed := by
    intro e he
    obtain ⟨hmem, hkeep⟩ := List.mem_filter.1 he
    obtain ⟨hne, hdir⟩ := t.closed e hmem
    refine ⟨hne, ?_⟩
    by_cases hroot : e.1.dropLast = []
    · simp [directoryIn, entryIn, hroot, Entry.isDirectory]
    · have hup := up e.1 hkeep hroot
      simpa only [directoryIn, entryIn, hroot, if_false, lookup_filter t.entries keep hup] using hdir

def putEntry (entries : List (Location × Entry)) (loc : Location) (entry : Entry) :
    List (Location × Entry) :=
  (loc, entry) :: entries.filter fun e => !(e.1 == loc)

theorem lookup_putEntry_self (entries : List (Location × Entry)) (loc : Location) (entry : Entry) :
    (putEntry entries loc entry).lookup loc = some entry := by
  simp [putEntry]

theorem lookup_putEntry_of_ne (entries : List (Location × Entry)) {loc other : Location}
    (entry : Entry) (h : other ≠ loc) :
    (putEntry entries loc entry).lookup other = entries.lookup other := by
  have hne : (other == loc) = false := beq_false_of_ne h
  simp only [putEntry, List.lookup_cons, hne]
  exact lookup_filter entries (fun l => !(l == loc)) (by simp [hne])

/-- An entry fits at a location other than the root, in a directory, and it does not put a file
in the place of a directory. -/
def fits (t : FileTree) (loc : Location) (entry : Entry) : Bool :=
  !loc.isEmpty && t.isDirectory loc.dropLast && (entry.isDirectory || !t.isDirectory loc)

def put (t : FileTree) (loc : Location) (entry : Entry) (h : t.fits loc entry = true) :
    FileTree where
  entries := putEntry t.entries loc entry
  closed := by
    simp only [fits, Bool.and_eq_true, Bool.not_eq_true', List.isEmpty_eq_false_iff,
      Bool.or_eq_true] at h
    obtain ⟨⟨hne, hparent⟩, hkind⟩ := h
    have still : ∀ other, directoryIn t.entries other = true →
        directoryIn (putEntry t.entries loc entry) other = true := by
      intro other hother
      by_cases hroot : other = []
      · simp [directoryIn, entryIn, hroot, Entry.isDirectory]
      · by_cases hsame : other = loc
        · subst hsame
          have hdir : entry.isDirectory = true := by
            rcases hkind with hkind | hkind
            · exact hkind
            · rw [isDirectory, hother] at hkind
              cases hkind
          simp only [directoryIn, entryIn, hroot, if_false, lookup_putEntry_self, hdir]
        · simpa only [directoryIn, entryIn, hroot, if_false,
            lookup_putEntry_of_ne t.entries entry hsame] using hother
    intro e he
    simp only [putEntry, List.mem_cons] at he
    rcases he with rfl | he
    · exact ⟨hne, still _ hparent⟩
    · obtain ⟨hne, hdir⟩ := t.closed e (List.mem_filter.1 he).1
      exact ⟨hne, still _ hdir⟩

/-- The tree with an entry put at a location, or the same tree where the entry does not fit. -/
def insert (t : FileTree) (loc : Location) (entry : Entry) : FileTree :=
  if h : t.fits loc entry = true then t.put loc entry h else t

/-- A location that lies strictly below another. -/
def isBelow (above loc : Location) : Bool :=
  above.isPrefixOf loc && !(loc == above)

theorem not_isBelow_dropLast {above loc : Location} (h : isBelow above loc = false) :
    isBelow above loc.dropLast = false := by
  apply Bool.eq_false_iff.2
  intro hbelow
  simp only [isBelow, Bool.and_eq_true, List.isPrefixOf_iff_prefix, Bool.not_eq_true',
    beq_eq_false_iff_ne] at hbelow
  obtain ⟨⟨rest, hrest⟩, hne⟩ := hbelow
  have hbegins : above <+: loc :=
    List.IsPrefix.trans ⟨rest, hrest⟩ (List.dropLast_prefix loc)
  have hdiff : loc ≠ above := by
    rintro rfl
    have hlen := congrArg List.length hrest
    simp only [List.length_append, List.length_dropLast] at hlen
    have hzero : loc = [] ∨ rest = [] := by
      cases loc with
      | nil => exact Or.inl rfl
      | cons x xs =>
          simp only [List.length_cons] at hlen
          omega
    rcases hzero with rfl | rfl
    · exact hne (by simp)
    · simp only [List.length_nil] at hlen
      cases loc with
      | nil => exact hne rfl
      | cons x xs =>
          simp only [List.length_cons] at hlen
          omega
  have : isBelow above loc = true := by
    simp only [isBelow, Bool.and_eq_true, List.isPrefixOf_iff_prefix, Bool.not_eq_true',
      beq_eq_false_iff_ne]
    exact ⟨hbegins, hdiff⟩
  rw [this] at h
  cases h

/-- The tree without what lies strictly below a location. -/
def clear (t : FileTree) (above : Location) : FileTree :=
  t.restrict (fun loc => !isBelow above loc) (by
    intro loc hloc _
    simp only [Bool.not_eq_true'] at hloc ⊢
    exact not_isBelow_dropLast hloc)

def erase (t : FileTree) (root : Location) : FileTree :=
  t.restrict (fun loc => !root.isPrefixOf loc) (by
    intro loc hloc _
    apply eq_true_of_ne_false
    intro hfalse
    simp only [Bool.not_eq_false', List.isPrefixOf_iff_prefix] at hfalse
    have : root.isPrefixOf loc = true :=
      List.isPrefixOf_iff_prefix.2 (hfalse.trans (List.dropLast_prefix loc))
    simp [this] at hloc)

def children (t : FileTree) (dir : Location) : List String :=
  t.entries.filterMap fun e =>
    if e.1.dropLast = dir then e.1.getLast? else none

def below (t : FileTree) (dir : Location) : List (Location × Entry) :=
  t.entries.filter fun e => isBelow dir e.1

end FileTree
end TileAudit
