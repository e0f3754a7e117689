import TileAudit.Proofs.Effect.Run
import TileAudit.Proofs.FileTree.Surroundings
import TileAudit.Workspace

/-!
# Workspaces stay where they are

Making a workspace is refused for a directory of somebody else and for a place behind a
file, and then nothing changes. Otherwise the workspace is a directory with its mark and
nothing else in it, and nothing outside changes but for the directories above it that were
not there. Removing a workspace removes what is in it and nothing else.
-/

namespace TileAudit
namespace Workspace

open FileTree PathText

theorem isName_workspaceMarker : IsName workspaceMarker where
  ne_empty := by decide
  no_slash := by decide
  ne_point := by decide
  ne_points := by decide

def IsMarked (t : FileTree) (loc : Location) : Prop :=
  ∃ content executable, t.entry? (loc ++ [workspaceMarker]) = some (.file content executable)

/-- A directory that has entries, none of which is a file with the mark's name. -/
def IsForeign (t : FileTree) (loc : Location) : Prop :=
  t.entry? loc = some .directory ∧ (∃ name, t.entry? (loc ++ [name]) ≠ none) ∧
    ¬ IsMarked t loc

section

variable {t : FileTree} {path : String} {cwd loc : Location}

theorem siteAt_vacant (h : ∀ l, t.lookup cwd path ≠ .ok (l, .directory)) :
    siteAt path t cwd = .vacant := by
  unfold siteAt
  cases hlookup : t.lookup cwd path with
  | error kind => rfl
  | ok found =>
      rcases found with ⟨l, entry⟩
      cases entry with
      | file content executable => rfl
      | directory => exact absurd hlookup (h l)

theorem siteAt_directory (hpath : path.isEmpty = false) (h : Leads t cwd path loc) :
    siteAt path t cwd =
      if t.pathIsFile cwd (join path workspaceMarker) then .marked
      else if (t.children loc).isEmpty then .bare
      else .foreign := by
  unfold siteAt
  rw [h.lookup hpath]

theorem siteAt_marked (hpath : path.isEmpty = false) (h : Leads t cwd path loc)
    (hmark : IsMarked t loc) : siteAt path t cwd = .marked := by
  have hfile := (h.pathIsFile_join isName_workspaceMarker).mpr hmark
  rw [siteAt_directory hpath h, if_pos hfile]

theorem siteAt_foreign (hpath : path.isEmpty = false) (h : Leads t cwd path loc)
    (hforeign : IsForeign t loc) : siteAt path t cwd = .foreign := by
  rcases hforeign with ⟨_, ⟨name, hname⟩, hmark⟩
  have hfile := mt (h.pathIsFile_join isName_workspaceMarker).mp hmark
  have hentries : ¬ (t.children loc).isEmpty = true :=
    fun hempty => hname ((children_isEmpty_iff t _).mp hempty name)
  rw [siteAt_directory hpath h, if_neg hfile, if_neg hentries]

theorem siteAt_bare (hpath : path.isEmpty = false) (h : Leads t cwd path loc)
    (hempty : ∀ name, t.entry? (loc ++ [name]) = none) : siteAt path t cwd = .bare := by
  have hfile : ¬ t.pathIsFile cwd (join path workspaceMarker) = true := by
    intro htrue
    rcases (h.pathIsFile_join isName_workspaceMarker).mp htrue with ⟨content, executable, hmark⟩
    rw [hempty] at hmark
    cases hmark
  rw [siteAt_directory hpath h, if_neg hfile, if_pos ((children_isEmpty_iff t _).mpr hempty)]

end

/-!
## Making a workspace

A place is foreign, behind a file, an earlier workspace or clear. The first two are refused without
a change, and the others are claimed, an earlier workspace after it has been removed.
-/

/-- What making a workspace at a location has changed. -/
structure Claimed (before after : FileTree) (loc : Location) : Prop where
  /-- The location and all above it are directories. -/
  directory : ∀ above, above <+: loc → after.entry? above = some .directory
  /-- The mark is there, an empty file. -/
  marked : after.entry? (loc ++ [workspaceMarker]) = some (.file (.bytes ByteArray.empty) false)
  /-- Nothing else is below the location. -/
  bare : ∀ inside, loc <+: inside → inside ≠ loc → inside ≠ loc ++ [workspaceMarker] →
    after.entry? inside = none
  /-- Whatever is not below the location is as before, unless it is a directory above it that
  was missing. -/
  outside : ∀ other, ¬ loc <+: other → (other <+: loc → before.entry? other ≠ none) →
    after.entry? other = before.entry? other

structure Clear (t : FileTree) (loc : Location) : Prop where
  bare : ∀ inside, loc <+: inside → inside ≠ loc → t.entry? inside = none
  open_way : ¬ IsObstructed t [] loc

theorem isObstructed_root_iff {t : FileTree} {loc : Location} :
    IsObstructed t [] loc ↔
      ∃ above content executable, above <+: loc ∧
        t.entry? above = some (.file content executable) := by
  constructor
  · rintro ⟨above, content, executable, hway, hfile⟩
    exact ⟨above, content, executable, hway.2, hfile⟩
  · rintro ⟨above, content, executable, habove, hfile⟩
    exact ⟨above, content, executable, ⟨List.nil_prefix, habove⟩, hfile⟩

theorem not_isObstructed_of_directory {t : FileTree} {loc : Location}
    (h : t.entry? loc = some .directory) : ¬ IsObstructed t [] loc := by
  intro hobstructed
  rcases isObstructed_root_iff.mp hobstructed with ⟨above, content, executable, ⟨rest, rfl⟩, hfile⟩
  by_cases hrest : rest = []
  · rw [hrest, List.append_nil, hfile] at h
    cases h
  · rw [entry?_above t hrest h] at hfile
    cases hfile

theorem claim_raised {path : String} {place : Location} {w : World} {made : FileTree}
    (hmake : w.tree.makeDirectories w.cwd path = (made, .ok ())) (hraised : Raised w.tree made place)
    (hleads : Leads made w.cwd path place)
    (hbare : ∀ inside, place <+: inside → inside ≠ place → w.tree.entry? inside = none) :
    ∃ after, Effect.run (do
        Effect.makeDirectories path
        Effect.writeBytes (join path workspaceMarker) ByteArray.empty
        return (⟨path⟩ : Workspace)) w = (.ok ⟨path⟩, { w with tree := after }) ∧
      Claimed w.tree after place := by
  have hdirectory := hraised.directories place (List.prefix_refl _)
  have hbelow : ∀ inside, place <+: inside → inside ≠ place → made.entry? inside = none := by
    intro inside hinside hne
    have hnot : ¬ inside <+: place := fun hback =>
      hne (hback.eq_of_length_le hinside.length_le)
    rw [hraised.elsewhere inside hnot]
    exact hbare inside hinside hne
  have hfree : made.entry? (place ++ [workspaceMarker]) = none :=
    hbelow _ (List.prefix_append _ _) (by simp)
  have hwrite := hleads.writeContent_join_none isName_workspaceMarker hfree (.bytes ByteArray.empty)
  have hfits : made.fits (place ++ [workspaceMarker]) (.file (.bytes ByteArray.empty) false) = true :=
    fits_file made hdirectory (by rw [hfree]; simp)
  refine ⟨_, ?_, ?_, entry?_insert_self made hfits, ?_, ?_⟩
  · have hfirst : Effect.run (Effect.makeDirectories path) w =
        (.ok (), { w with tree := made }) := by
      rw [Effect.run_makeDirectories, hmake]
      rfl
    have hsecond := Effect.run_writeBytes_of_ok (w := { w with tree := made }) hwrite
    rw [Effect.run_bind_of_ok hfirst, Effect.run_bind_of_ok hsecond, Effect.run_pure]
  · intro above habove
    have hne : above ≠ place ++ [workspaceMarker] := by
      rintro rfl
      have hlength := habove.length_le
      rw [List.length_append, List.length_singleton] at hlength
      omega
    rw [entry?_insert_of_ne made _ hne]
    exact hraised.directories above habove
  · intro inside hinside hne hother
    rw [entry?_insert_of_ne made _ hother]
    exact hbelow inside hinside hne
  · intro other hother hsome
    have hne : other ≠ place ++ [workspaceMarker] := by
      rintro rfl
      exact hother (List.prefix_append _ _)
    rw [entry?_insert_of_ne made _ hne]
    by_cases habove : other <+: place
    · cases hentry : w.tree.entry? other with
      | none => exact absurd hentry (hsome habove)
      | some entry => exact hraised.kept other entry hentry
    · exact hraised.elsewhere other habove

theorem claim_clear {path : String} (hpath : IsPlain path) {w : World}
    (h : Clear w.tree (names path)) :
    ∃ after, Effect.run (do
        Effect.makeDirectories path
        Effect.writeBytes (join path workspaceMarker) ByteArray.empty
        return (⟨path⟩ : Workspace)) w = (.ok ⟨path⟩, { w with tree := after }) ∧
      Claimed w.tree after (names path) := by
  rcases hpath.makeDirectories_clear w.cwd h.open_way with ⟨made, hmake, hraised⟩
  have hdirectory := hraised.directories (names path) (List.prefix_refl _)
  exact claim_raised hmake hraised (hpath.leads w.cwd hdirectory) h.bare

theorem clear_erase {t : FileTree} {loc : Location} (hloc : loc ≠ [])
    (h : t.entry? loc = some .directory) : Clear (t.erase loc) loc where
  bare := by
    intro inside hinside _
    rw [entry?_erase t hloc, if_pos hinside]
  open_way := by
    intro hobstructed
    rcases isObstructed_root_iff.mp hobstructed with ⟨above, content, executable, habove, hfile⟩
    rw [entry?_erase t hloc] at hfile
    by_cases hbelow : loc <+: above
    · rw [if_pos hbelow] at hfile
      cases hfile
    · rw [if_neg hbelow] at hfile
      exact not_isObstructed_of_directory h
        (isObstructed_root_iff.mpr ⟨above, content, executable, habove, hfile⟩)

theorem Claimed.of_erase {t after : FileTree} {loc : Location} (hloc : loc ≠ [])
    (h : Claimed (t.erase loc) after loc) : Claimed t after loc where
  directory := h.directory
  marked := h.marked
  bare := h.bare
  outside := by
    intro other hother hsome
    have hsame := entry?_erase t hloc other
    rw [if_neg hother] at hsame
    rw [h.outside other hother (by rw [hsame]; exact hsome), hsame]

theorem place_cases (t : FileTree) (loc : Location) :
    IsForeign t loc ∨ IsObstructed t [] loc ∨
      (t.entry? loc = some .directory ∧ IsMarked t loc) ∨ Clear t loc := by
  by_cases hobstructed : IsObstructed t [] loc
  · exact Or.inr (Or.inl hobstructed)
  by_cases hmark : IsMarked t loc
  · rcases hmark with ⟨content, executable, hfile⟩
    exact Or.inr (Or.inr (Or.inl ⟨entry?_parent t hfile, content, executable, hfile⟩))
  by_cases hforeign : IsForeign t loc
  · exact Or.inl hforeign
  refine Or.inr (Or.inr (Or.inr ⟨?_, hobstructed⟩))
  rintro inside ⟨rest, rfl⟩ hne
  cases rest with
  | nil => exact absurd (List.append_nil loc) hne
  | cons name rest =>
      by_cases hdirectory : t.entry? loc = some .directory
      · have hname : t.entry? (loc ++ [name]) = none :=
          Classical.byContradiction fun hsome => hforeign ⟨hdirectory, ⟨name, hsome⟩, hmark⟩
        by_cases hrest : rest = []
        · rw [hrest, hname]
        · have hsplit : loc ++ name :: rest = (loc ++ [name]) ++ rest := by simp
          rw [hsplit]
          exact entry?_below t hrest (by rw [hname]; simp)
      · exact entry?_below t (by simp) hdirectory

section

variable {path : String} {w : World}

theorem prepareSite_foreign (h : siteAt path w.tree w.cwd = .foreign) :
    Effect.run (prepareSite path) w = (.error (.config (.foreignDirectory path)), w) := by
  unfold prepareSite
  rw [Effect.run_bind, Effect.run_inspect, h]
  rfl

theorem prepareSite_marked (h : siteAt path w.tree w.cwd = .marked) :
    Effect.run (prepareSite path) w = Effect.run (Effect.removeDirectory path)
      ⟨w.tree, w.cwd, w.events ++ [.clearingWorkspace path]⟩ := by
  unfold prepareSite
  rw [Effect.run_bind, Effect.run_inspect, h]
  show Effect.run (Effect.tell (.clearingWorkspace path) >>= fun _ =>
    Effect.removeDirectory path) w = _
  rw [Effect.run_bind, Effect.run_tell]

theorem create_foreign (hpath : IsPlain path) (h : IsForeign w.tree (names path)) :
    Effect.run (create path) w = (.error (.config (.foreignDirectory path)), w) := by
  have hsite := siteAt_foreign hpath.not_isEmpty (hpath.leads w.cwd h.1) h
  unfold create
  rw [Effect.run_bind_of_error (prepareSite_foreign hsite)]

theorem prepareSite_open
    (h : siteAt path w.tree w.cwd = .vacant ∨ siteAt path w.tree w.cwd = .bare) :
    Effect.run (prepareSite path) w = (.ok (), w) := by
  unfold prepareSite
  rw [Effect.run_bind, Effect.run_inspect]
  rcases h with h | h
  · rw [h]
    rfl
  · rw [h]
    rfl

theorem create_obstructed (hpath : IsPlain path) (h : IsObstructed w.tree [] (names path)) :
    ∃ kind, Effect.run (create path) w = (.error (Fault.ofIo kind), w) := by
  have hdirectory : w.tree.entry? (names path) ≠ some .directory :=
    fun hdirectory => not_isObstructed_of_directory hdirectory h
  have hsite := prepareSite_open (Or.inl (siteAt_vacant (hpath.lookup_ne_directory hdirectory)))
  rcases hpath.makeDirectories_obstructed w.cwd h with ⟨kind, hmake⟩
  have hmade : Effect.run (Effect.makeDirectories path) w = (.error (Fault.ofIo kind), w) := by
    rw [Effect.run_makeDirectories, hmake]
    rfl
  refine ⟨kind, ?_⟩
  unfold create
  rw [Effect.run_bind_of_ok hsite, Effect.run_bind_of_error hmade]

theorem siteAt_clear (hpath : IsPlain path) {t : FileTree} (cwd : Location)
    (h : Clear t (names path)) : siteAt path t cwd = .vacant ∨ siteAt path t cwd = .bare := by
  by_cases hdirectory : t.entry? (names path) = some .directory
  · have hempty : ∀ name, t.entry? (names path ++ [name]) = none :=
      fun name => h.bare _ (List.prefix_append _ _) (by simp)
    exact Or.inr (siteAt_bare hpath.not_isEmpty (hpath.leads cwd hdirectory) hempty)
  · exact Or.inl (siteAt_vacant (hpath.lookup_ne_directory hdirectory))

theorem create_clear (hpath : IsPlain path) (h : Clear w.tree (names path)) :
    ∃ w', Effect.run (create path) w = (.ok ⟨path⟩, w') ∧
      Claimed w.tree w'.tree (names path) := by
  rcases claim_clear hpath h with ⟨after, hrun, hclaimed⟩
  refine ⟨{ w with tree := after }, ?_, hclaimed⟩
  unfold create
  rw [Effect.run_bind_of_ok (prepareSite_open (siteAt_clear hpath w.cwd h)), hrun]

theorem create_marked (hpath : IsPlain path) (hdirectory : w.tree.entry? (names path) =
    some .directory) (hmark : IsMarked w.tree (names path)) :
    ∃ w', Effect.run (create path) w = (.ok ⟨path⟩, w') ∧
      Claimed w.tree w'.tree (names path) := by
  let cleared : World :=
    ⟨w.tree.erase (names path), w.cwd, w.events ++ [.clearingWorkspace path]⟩
  have hmarked := siteAt_marked hpath.not_isEmpty (hpath.leads w.cwd hdirectory) hmark
  have hsite : Effect.run (prepareSite path) w = (.ok (), cleared) := by
    rw [prepareSite_marked hmarked, Effect.run_removeDirectory,
      hpath.removeDirectory_directory w.cwd hdirectory]
    rfl
  rcases claim_clear hpath (w := cleared) (clear_erase hpath.ne_root hdirectory) with
    ⟨after, hrun, hclaimed⟩
  refine ⟨{ cleared with tree := after }, ?_, Claimed.of_erase hpath.ne_root hclaimed⟩
  unfold create
  rw [Effect.run_bind_of_ok hsite, hrun]

theorem remove_directory (hpath : IsPlain path)
    (h : w.tree.entry? (names path) = some .directory) :
    Effect.run (remove ⟨path⟩) w =
      (.ok (), ⟨w.tree.erase (names path), w.cwd, w.events ++ [.removedWorkspace path]⟩) := by
  unfold remove
  rw [Effect.run_bind, Effect.run_attempt, Effect.run_removeDirectory,
    hpath.removeDirectory_directory w.cwd h]
  rfl

theorem remove_claimed (hpath : IsPlain path) {before after : FileTree}
    (h : Claimed before after (names path))
    (hsame : ∀ loc, ¬ (names path <+: loc ∧ loc ≠ names path) →
      w.tree.entry? loc = after.entry? loc) :
    ∃ last, Effect.run (remove ⟨path⟩) w = (.ok (), last) ∧
      ∀ loc, last.tree.entry? loc = if names path <+: loc then none else w.tree.entry? loc := by
  have hdirectory : w.tree.entry? (names path) = some .directory := by
    rw [hsame _ fun hbelow => hbelow.2 rfl]
    exact h.directory _ (List.prefix_refl _)
  exact ⟨_, remove_directory hpath hdirectory, entry?_erase w.tree hpath.ne_root⟩

end

section

variable {path : String} {w w' : World} {outcome : Except Fault Workspace}

theorem create_cases (hpath : IsPlain path) (hrun : Effect.run (create path) w = (outcome, w')) :
    (IsForeign w.tree (names path) ∧ ¬ IsObstructed w.tree [] (names path) ∧
      outcome = .error (.config (.foreignDirectory path)) ∧ w' = w) ∨
    (¬ IsForeign w.tree (names path) ∧ IsObstructed w.tree [] (names path) ∧
      (∃ kind, outcome = .error (Fault.ofIo kind)) ∧ w' = w) ∨
    (¬ IsForeign w.tree (names path) ∧ ¬ IsObstructed w.tree [] (names path) ∧
      outcome = .ok ⟨path⟩ ∧ Claimed w.tree w'.tree (names path)) := by
  have hclash : IsForeign w.tree (names path) → ¬ IsObstructed w.tree [] (names path) :=
    fun hforeign => not_isObstructed_of_directory hforeign.1
  rcases place_cases w.tree (names path) with
    hforeign | hobstructed | ⟨hdirectory, hmark⟩ | hclear
  · rw [create_foreign hpath hforeign] at hrun
    cases hrun
    exact Or.inl ⟨hforeign, hclash hforeign, rfl, rfl⟩
  · rcases create_obstructed hpath hobstructed with ⟨kind, hcreate⟩
    rw [hcreate] at hrun
    cases hrun
    exact Or.inr (Or.inl ⟨fun hforeign => hclash hforeign hobstructed, hobstructed,
      ⟨kind, rfl⟩, rfl⟩)
  · rcases create_marked hpath hdirectory hmark with ⟨last, hcreate, hclaimed⟩
    rw [hcreate] at hrun
    cases hrun
    exact Or.inr (Or.inr ⟨fun hforeign => hforeign.2.2 hmark,
      not_isObstructed_of_directory hdirectory, rfl, hclaimed⟩)
  · rcases create_clear hpath hclear with ⟨last, hcreate, hclaimed⟩
    rw [hcreate] at hrun
    cases hrun
    refine Or.inr (Or.inr ⟨?_, hclear.open_way, rfl, hclaimed⟩)
    rintro ⟨_, ⟨name, hname⟩, _⟩
    exact hname (hclear.bare _ (List.prefix_append _ _) (by simp))

/-- Making a workspace is refused for a foreign directory and behind a file, without a change.
Otherwise its place is claimed, and whatever happens below the place afterwards, removing the
workspace removes all that is there and nothing else. -/
theorem create_confined (hpath : IsPlain path)
    (hrun : Effect.run (create path) w = (outcome, w')) :
    ((∃ fault, outcome = .error (.config fault)) ↔ IsForeign w.tree (names path)) ∧
    ((∃ kind text, outcome = .error (.io kind text)) ↔
      ∃ above content executable, above <+: names path ∧
        w.tree.entry? above = some (.file content executable)) ∧
    (∀ fault, outcome = .error fault →
      ((∃ reason, fault = .config reason) ∨ ∃ kind text, fault = .io kind text) ∧
        w'.tree = w.tree) ∧
    ∀ workspace, outcome = .ok workspace →
      Claimed w.tree w'.tree (names path) ∧
      ∀ later : World,
        (∀ loc, ¬ (names path <+: loc ∧ loc ≠ names path) →
          later.tree.entry? loc = w'.tree.entry? loc) →
        ∃ last, Effect.run workspace.remove later = (.ok (), last) ∧
          ∀ loc, last.tree.entry? loc =
            if names path <+: loc then none else later.tree.entry? loc := by
  rw [← isObstructed_root_iff]
  rcases create_cases hpath hrun with ⟨hforeign, hopen, rfl, rfl⟩ |
    ⟨hnot, hobstructed, ⟨kind, rfl⟩, rfl⟩ | ⟨hnot, hopen, rfl, hclaimed⟩
  · refine ⟨⟨fun _ => hforeign, fun _ => ⟨_, rfl⟩⟩, ⟨?_, fun h => absurd h hopen⟩, ?_, ?_⟩
    · rintro ⟨kind, text, h⟩
      cases h
    · intro fault h
      cases h
      exact ⟨Or.inl ⟨_, rfl⟩, rfl⟩
    · intro workspace h
      cases h
  · refine ⟨⟨?_, fun h => absurd h hnot⟩, ⟨fun _ => hobstructed, fun _ => ⟨_, _, rfl⟩⟩, ?_, ?_⟩
    · rintro ⟨fault, h⟩
      cases h
    · intro fault h
      cases h
      exact ⟨Or.inr ⟨_, _, rfl⟩, rfl⟩
    · intro workspace h
      cases h
  · refine ⟨⟨?_, fun h => absurd h hnot⟩, ⟨?_, fun h => absurd h hopen⟩, ?_, ?_⟩
    · rintro ⟨fault, h⟩
      cases h
    · rintro ⟨kind, text, h⟩
      cases h
    · intro fault h
      cases h
    · intro workspace h
      cases h
      exact ⟨hclaimed, fun later hsame => remove_claimed hpath hclaimed hsame⟩

end

def usedWorkspace : FileTree :=
  ((FileTree.empty.insert ["run"] .directory).insert ["run", workspaceMarker]
    (.file (.bytes ByteArray.empty) false)).insert ["run", "tiles"] .directory

theorem isPlain_run : IsPlain "/run" where
  absolute := by decide
  ne_root := by decide
  plain := by decide

theorem create_confined_usedWorkspace :
    IsPlain "/run" ∧
      ∃ w', Effect.run (create "/run") ⟨usedWorkspace, [], []⟩ = (.ok ⟨"/run"⟩, w') ∧
        Claimed usedWorkspace w'.tree ["run"] := by
  refine ⟨isPlain_run, (Effect.run (create "/run") ⟨usedWorkspace, [], []⟩).2, rfl, ?_⟩
  exact ((create_confined isPlain_run (w := ⟨usedWorkspace, [], []⟩) rfl).2.2.2 ⟨"/run"⟩ rfl).1

end Workspace
end TileAudit
