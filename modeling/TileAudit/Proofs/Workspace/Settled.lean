import TileAudit.Proofs.FileTree.Settling
import TileAudit.Proofs.Workspace.Confinement

/-!
# Workspaces of any path that settles

A workspace is made at the place where its path settles, be the path relative, be it the working
directory itself, and be it named by "here". What it is refused for leaves no trace but directories
above the place; what is done within it and the workspace itself are gone once it is removed.
-/

namespace TileAudit
namespace Workspace

open FileTree PathText

/-!
## Traces

A workspace that has come and gone leaves all as it was, but for what a free place had in it and for
directories above the place that were missing. An earlier workspace may have been emptied or erased.
-/

/-- A place that is free for a workspace: nothing is there, or a directory that is an earlier
workspace or has nothing in it. -/
def IsFree (t : FileTree) (place : Location) : Prop :=
  t.entry? place = none ∨
    t.entry? place = some .directory ∧
      (IsMarked t place ∨ ∀ name, t.entry? (place ++ [name]) = none)

/-- A tree after a workspace has come and gone: all is as before, but for what a free place had in
it, which may be gone, and for directories above the place that were missing. -/
structure Traceless (before after : FileTree) (place : Location) : Prop where
  kept : ∀ other entry, before.entry? other = some entry →
    after.entry? other = some entry ∨
      place <+: other ∧ IsFree before place ∧ after.entry? other = none
  gone : ∀ other entry, before.entry? other = none → after.entry? other = some entry →
    entry = .directory ∧ other <+: place ∧ other ≠ place

section

variable {before middle after : FileTree} {place : Location}

theorem isFree_of_isMarked (h : IsMarked before place) : IsFree before place := by
  rcases h with ⟨content, executable, hmark⟩
  exact Or.inr ⟨entry?_parent before hmark, Or.inl ⟨content, executable, hmark⟩⟩

theorem isFree_of_raised (h : Raised before after place)
    (hempty : ∀ name, before.entry? (place ++ [name]) = none) : IsFree before place := by
  cases hentry : before.entry? place with
  | none => exact Or.inl hentry
  | some entry =>
      cases entry with
      | directory => exact Or.inr ⟨hentry, Or.inr hempty⟩
      | file content executable =>
          have hdirectory := h.directories place (List.prefix_refl _)
          rw [h.kept place _ hentry] at hdirectory
          cases hdirectory

theorem Traceless.refl (t : FileTree) (place : Location) : Traceless t t place where
  kept := fun _ _ h => Or.inl h
  gone := by
    intro other entry hnone hsome
    rw [hnone] at hsome
    cases hsome

theorem Traceless.of_raisedAbove (h : RaisedAbove before after place) :
    Traceless before after place where
  kept := by
    intro other entry hentry
    rcases h other with hsame | ⟨⟨_, hnone, _⟩, _⟩
    · exact Or.inl (hsame.trans hentry)
    · rw [hentry] at hnone
      cases hnone
  gone := by
    intro other entry hnone hsome
    rcases h other with hsame | ⟨⟨habove, _, hdirectory⟩, hne⟩
    · rw [hsame, hnone] at hsome
      cases hsome
    · rw [hdirectory] at hsome
      cases hsome
      exact ⟨rfl, habove, hne⟩

theorem Traceless.of_emptied (hfree : IsFree before place)
    (hempty : ∀ other, middle.entry? other = before.entry? other ∨
      place <+: other ∧ middle.entry? other = none)
    (h : Traceless middle after place) : Traceless before after place where
  kept := by
    intro other entry hentry
    rcases hempty other with hsame | ⟨hbelow, hmiddle⟩
    · rcases h.kept other entry (hsame.trans hentry) with hkept | ⟨hbelow, _, hafter⟩
      · exact Or.inl hkept
      · exact Or.inr ⟨hbelow, hfree, hafter⟩
    · refine Or.inr ⟨hbelow, hfree, ?_⟩
      cases hafter : after.entry? other with
      | none => rfl
      | some entry' =>
          rcases h.gone other entry' hmiddle hafter with ⟨_, habove, hne⟩
          exact absurd (habove.eq_of_length_le hbelow.length_le) hne
  gone := by
    intro other entry hnone hsome
    rcases hempty other with hsame | ⟨_, hmiddle⟩
    · exact h.gone other entry (hsame.trans hnone) hsome
    · exact h.gone other entry hmiddle hsome

theorem Traceless.of_removed {claimed used : FileTree} (hfree : IsFree before place)
    (hclaimed : Claimed before claimed place) (hused : SameAround place claimed used)
    (hremoved : (∀ loc, after.entry? loc = if place <+: loc then none else used.entry? loc) ∨
      before.entry? place = some .directory ∧
        ∀ loc, after.entry? loc = if place <+: loc ∧ loc ≠ place then none else used.entry? loc) :
    Traceless before after place := by
  -- Neither the use of the workspace nor its removal reaches what lies outside of it.
  have houtside : ∀ other, ¬ place <+: other → after.entry? other = claimed.entry? other := by
    intro other hother
    have hsame := hused other fun hbelow => hother hbelow.1
    rcases hremoved with hafter | ⟨_, hafter⟩
    · rw [hafter, if_neg hother, hsame]
    · rw [hafter, if_neg fun hbelow => hother hbelow.1, hsame]
  refine ⟨?_, ?_⟩
  · intro other entry hentry
    by_cases hbelow : place <+: other
    · rcases hremoved with hafter | ⟨hplace, hafter⟩
      · exact Or.inr ⟨hbelow, hfree, by rw [hafter, if_pos hbelow]⟩
      · by_cases hsame : other = place
        · have hdirectory : claimed.entry? place = some .directory :=
            hclaimed.directory place (List.prefix_refl _)
          rw [hsame, hplace] at hentry
          rw [hsame, hafter, if_neg fun h => h.2 rfl, hused.directory hdirectory]
          exact Or.inl hentry
        · exact Or.inr ⟨hbelow, hfree, by rw [hafter, if_pos ⟨hbelow, hsame⟩]⟩
    · have hsome : before.entry? other ≠ none := by
        rw [hentry]
        simp
      rw [houtside other hbelow, hclaimed.outside other hbelow fun _ => hsome]
      exact Or.inl hentry
  · intro other entry hnone hsome
    by_cases hbelow : place <+: other
    · rcases hremoved with hafter | ⟨hplace, hafter⟩
      · rw [hafter, if_pos hbelow] at hsome
        cases hsome
      · by_cases hsame : other = place
        · rw [hsame, hplace] at hnone
          cases hnone
        · rw [hafter, if_pos ⟨hbelow, hsame⟩] at hsome
          cases hsome
    · have hne : other ≠ place := by
        rintro rfl
        exact hbelow (List.prefix_refl other)
      rw [houtside other hbelow] at hsome
      by_cases habove : other <+: place
      · rw [hclaimed.directory other habove] at hsome
        cases hsome
        exact ⟨rfl, habove, hne⟩
      · rw [hclaimed.outside other hbelow fun h => absurd h habove, hnone] at hsome
        cases hsome

end

section

variable {path : String} {place : Location} {w : World}

theorem bare_of_no_names {t : FileTree} (h : ∀ name, t.entry? (place ++ [name]) = none) :
    ∀ inside, place <+: inside → inside ≠ place → t.entry? inside = none := by
  rintro inside ⟨rest, rfl⟩ hne
  cases rest with
  | nil => exact absurd (List.append_nil place) hne
  | cons name rest =>
      by_cases hrest : rest = []
      · rw [hrest, h]
      · have hsplit : place ++ name :: rest = (place ++ [name]) ++ rest := by simp
        rw [hsplit]
        exact entry?_below t hrest (by rw [h]; simp)

theorem claim_settled (hpath : path.isEmpty = false)
    (h : Settles w.tree place (startOf w.cwd path) (names path))
    (hempty : ∀ name, w.tree.entry? (place ++ [name]) = none) :
    ∃ outcome after, Effect.run (do
        Effect.makeDirectories path
        Effect.writeBytes (join path workspaceMarker) ByteArray.empty
        return (⟨path⟩ : Workspace)) w = (outcome, { w with tree := after }) ∧
      ((∃ fault, outcome = .error fault ∧ RaisedAbove w.tree after place) ∨
        outcome = .ok ⟨path⟩ ∧ IsFree w.tree place ∧ Claimed w.tree after place ∧
          (EndsInName (names path) ∨ w.tree.entry? place = some .directory)) := by
  rcases h.makeDirectories hpath with ⟨kind, made, hmake, hraised⟩ | ⟨made, hmake, hraised, hends⟩
  · have hrefused : Effect.run (Effect.makeDirectories path) w =
        (.error (Fault.ofIo kind), { w with tree := made }) := by
      rw [Effect.run_makeDirectories, hmake]
      rfl
    exact ⟨_, made, Effect.run_bind_of_error hrefused _, Or.inl ⟨_, rfl, hraised⟩⟩
  · have hplace := hraised.directories place (List.prefix_refl _)
    have hsettles : Settles made place (startOf w.cwd path) (names path) :=
      h.kept (fun l _ hl => hraised.kept l _ hl) (Or.inl fun _ => hplace)
    rcases claim_raised hmake hraised (hsettles.leads hplace) (bare_of_no_names hempty) with
      ⟨after, hrun, hclaimed⟩
    exact ⟨_, after, hrun, Or.inr ⟨rfl, isFree_of_raised hraised hempty, hclaimed, hends⟩⟩

/-- What making a workspace at a settled path comes to. -/
structure Made (before after : World) (path : String) (place : Location) : Prop where
  cwd : after.cwd = before.cwd
  free : IsFree before.tree place
  claimed : Claimed before.tree after.tree place
  ends : EndsInName (names path) ∨ before.tree.entry? place = some .directory

theorem create_bare (hpath : path.isEmpty = false)
    (h : Settles w.tree place (startOf w.cwd path) (names path))
    (hsite : siteAt path w.tree w.cwd = .vacant ∨ siteAt path w.tree w.cwd = .bare)
    (hempty : ∀ name, w.tree.entry? (place ++ [name]) = none) :
    ∃ outcome w', Effect.run (create path) w = (outcome, w') ∧
      ((∃ fault, outcome = .error fault ∧ Traceless w.tree w'.tree place) ∨
        outcome = .ok ⟨path⟩ ∧ Made w w' path place) := by
  rcases claim_settled hpath h hempty with ⟨outcome, after, hrun, houtcome⟩
  refine ⟨outcome, { w with tree := after }, ?_, ?_⟩
  · unfold create
    rw [Effect.run_bind_of_ok (prepareSite_open hsite), hrun]
  · rcases houtcome with ⟨fault, hfault, hraised⟩ | ⟨hok, hfree, hclaimed, hends⟩
    · exact Or.inl ⟨fault, hfault, Traceless.of_raisedAbove hraised⟩
    · exact Or.inr ⟨hok, rfl, hfree, hclaimed, hends⟩

theorem create_stuck (h : siteAt path w.tree w.cwd = .marked) (hmark : IsMarked w.tree place)
    {kind : IoKind}
    (hremove : w.tree.removeDirectory w.cwd path = (w.tree.clear place, .error kind)) :
    ∃ fault w', Effect.run (create path) w = (.error fault, w') ∧
      Traceless w.tree w'.tree place := by
  let emptied : World :=
    ⟨w.tree.clear place, w.cwd, w.events ++ [.clearingWorkspace path]⟩
  have hsite : Effect.run (prepareSite path) w = (.error (Fault.ofIo kind), emptied) := by
    rw [prepareSite_marked h, Effect.run_removeDirectory, hremove]
    rfl
  have hempty : ∀ other, emptied.tree.entry? other = w.tree.entry? other ∨
      place <+: other ∧ emptied.tree.entry? other = none := by
    intro other
    rw [entry?_clear w.tree place other]
    by_cases hbelow : place <+: other ∧ other ≠ place
    · rw [if_pos hbelow]
      exact Or.inr ⟨hbelow.1, rfl⟩
    · rw [if_neg hbelow]
      exact Or.inl rfl
  refine ⟨Fault.ofIo kind, emptied, ?_,
    Traceless.of_emptied (isFree_of_isMarked hmark) hempty (Traceless.refl _ place)⟩
  unfold create
  exact Effect.run_bind_of_error hsite _

theorem create_anew (hpath : path.isEmpty = false)
    (h : Settles w.tree place (startOf w.cwd path) (names path)) (hends : EndsInName (names path))
    (hsite : siteAt path w.tree w.cwd = .marked) (hmark : IsMarked w.tree place)
    (hremove : w.tree.removeDirectory w.cwd path = (w.tree.erase place, .ok ())) :
    ∃ outcome w', Effect.run (create path) w = (outcome, w') ∧
      ((∃ fault, outcome = .error fault ∧ Traceless w.tree w'.tree place) ∨
        outcome = .ok ⟨path⟩ ∧ Made w w' path place) := by
  let cleared : World :=
    ⟨w.tree.erase place, w.cwd, w.events ++ [.clearingWorkspace path]⟩
  have hprepare : Effect.run (prepareSite path) w = (.ok (), cleared) := by
    rw [prepareSite_marked hsite, Effect.run_removeDirectory, hremove]
    rfl
  have hroot := h.place_ne_root hends
  have herased := entry?_erase w.tree hroot
  have hempty : ∀ name, cleared.tree.entry? (place ++ [name]) = none := by
    intro name
    rw [herased, if_pos (List.prefix_append _ _)]
  have hsettles : Settles cleared.tree place (startOf cleared.cwd path) (names path) := by
    apply h.kept _ (Or.inr hends)
    intro l hout hl
    rw [herased, if_neg hout]
    exact hl
  rcases claim_settled hpath hsettles hempty with ⟨outcome, after, hrun, houtcome⟩
  refine ⟨outcome, { cleared with tree := after }, ?_, ?_⟩
  · unfold create
    rw [Effect.run_bind_of_ok hprepare, hrun]
  · rcases houtcome with ⟨fault, hfault, hraised⟩ | ⟨hok, _, hclaimed, _⟩
    · refine Or.inl ⟨fault, hfault, ?_⟩
      apply Traceless.of_emptied (isFree_of_isMarked hmark) _ (Traceless.of_raisedAbove hraised)
      intro other
      rw [herased]
      by_cases hbelow : place <+: other
      · rw [if_pos hbelow]
        exact Or.inr ⟨hbelow, rfl⟩
      · rw [if_neg hbelow]
        exact Or.inl rfl
    · exact Or.inr ⟨hok, rfl, isFree_of_isMarked hmark, Claimed.of_erase hroot hclaimed,
        Or.inl hends⟩

theorem create_settled (hpath : path.isEmpty = false)
    (h : Settles w.tree place (startOf w.cwd path) (names path)) :
    ∃ outcome w', Effect.run (create path) w = (outcome, w') ∧
      ((∃ fault, outcome = .error fault ∧ Traceless w.tree w'.tree place) ∨
        outcome = .ok ⟨path⟩ ∧ Made w w' path place) := by
  -- Only a directory that is there already can be marked or foreign.
  by_cases hplace : w.tree.entry? place = some .directory
  · have hleads := h.leads hplace
    by_cases hmark : IsMarked w.tree place
    · have hsite := siteAt_marked hpath hleads hmark
      rcases h.removeDirectory hpath hplace with ⟨hends, hremove⟩ | ⟨_, kind, hremove⟩
      · exact create_anew hpath h hends hsite hmark hremove
      · rcases create_stuck hsite hmark hremove with ⟨fault, w', hrun, htraceless⟩
        exact ⟨_, w', hrun, Or.inl ⟨fault, rfl, htraceless⟩⟩
    · by_cases hempty : ∀ name, w.tree.entry? (place ++ [name]) = none
      · exact create_bare hpath h (Or.inr (siteAt_bare hpath hleads hempty)) hempty
      · rw [Classical.not_forall] at hempty
        have hsite := siteAt_foreign hpath hleads ⟨hplace, hempty, hmark⟩
        refine ⟨.error (.config (.foreignDirectory path)), w, ?_,
          Or.inl ⟨_, rfl, Traceless.refl _ place⟩⟩
        unfold create
        exact Effect.run_bind_of_error (prepareSite_foreign hsite) _
  · have hempty : ∀ name, w.tree.entry? (place ++ [name]) = none :=
      fun name => entry?_below w.tree (by simp) hplace
    exact create_bare hpath h (Or.inl (siteAt_vacant (h.lookup_ne_directory hplace))) hempty

theorem create_blocked (hpath : path.isEmpty = false)
    (h : IsBlocked w.tree (startOf w.cwd path) (names path)) :
    ∃ fault, Effect.run (create path) w = (.error fault, w) := by
  rcases h.makeDirectories hpath with ⟨kind, hmake⟩
  have hsite : siteAt path w.tree w.cwd = .vacant := by
    apply siteAt_vacant
    intro l hlookup
    rw [h.lookup hpath] at hlookup
    cases hlookup
  have hrefused : Effect.run (Effect.makeDirectories path) w = (.error (Fault.ofIo kind), w) := by
    rw [Effect.run_makeDirectories, hmake]
    rfl
  refine ⟨Fault.ofIo kind, ?_⟩
  unfold create
  rw [Effect.run_bind_of_ok (prepareSite_open (Or.inl hsite)), Effect.run_bind_of_error hrefused]

theorem remove_settled (hpath : path.isEmpty = false)
    (h : Settles w.tree place (startOf w.cwd path) (names path))
    (hplace : w.tree.entry? place = some .directory) :
    ∃ last, Effect.run (remove ⟨path⟩) w = (.ok (), last) ∧
      (EndsInName (names path) ∧
          (∀ loc, last.tree.entry? loc = if place <+: loc then none else w.tree.entry? loc) ∨
        ¬ EndsInName (names path) ∧
          ∀ loc, last.tree.entry? loc =
            if place <+: loc ∧ loc ≠ place then none else w.tree.entry? loc) := by
  rcases h.removeDirectory hpath hplace with ⟨hends, hremove⟩ | ⟨hends, kind, hremove⟩
  · refine ⟨⟨w.tree.erase place, w.cwd, w.events ++ [.removedWorkspace path]⟩, ?_,
      Or.inl ⟨hends, entry?_erase w.tree (h.place_ne_root hends)⟩⟩
    unfold remove
    rw [Effect.run_bind, Effect.run_attempt, Effect.run_removeDirectory, hremove]
    rfl
  · have hrun : Effect.run (Effect.removeDirectory path) w =
        (.error (Fault.ofIo kind), { w with tree := w.tree.clear place }) := by
      rw [Effect.run_removeDirectory, hremove]
      rfl
    refine ⟨(Effect.run (remove ⟨path⟩) w).2, ?_, Or.inr ⟨hends, ?_⟩⟩
    · unfold remove
      rw [Effect.run_bind, Effect.run_attempt, hrun]
      cases kind <;> rfl
    · unfold remove
      rw [Effect.run_bind, Effect.run_attempt, hrun]
      cases kind <;> exact entry?_clear w.tree place

structure InUse (before t : FileTree) (place : Location) : Prop where
  directory : t.entry? place = some .directory
  kept : ∀ other entry, ¬ place <+: other → before.entry? other = some entry →
    t.entry? other = some entry

theorem Made.inUse {claimed : World} (h : Made w claimed path place) {t : FileTree}
    (hused : SameAround place claimed.tree t) : InUse w.tree t place where
  directory := hused.directory (h.claimed.directory place (List.prefix_refl _))
  kept := by
    intro other entry hother hentry
    have hsome : w.tree.entry? other ≠ none := by
      rw [hentry]
      simp
    rw [hused other fun hbelow => hother hbelow.1, h.claimed.outside other hother fun _ => hsome]
    exact hentry

theorem settles_of_inUse {t t' : FileTree} {cwd : Location} (huse : InUse t t' place)
    (h : Settles t place (startOf cwd path) (names path)) :
    Settles t' place (startOf cwd path) (names path) := by
  apply h.kept _ (Or.inl fun _ => huse.directory)
  intro l hout hl
  exact huse.kept l _ hout hl

theorem remove_made {claimed used : World} (hpath : path.isEmpty = false)
    (h : Settles w.tree place (startOf w.cwd path) (names path)) (hmade : Made w claimed path place)
    (hcwd : used.cwd = w.cwd) (hused : SameAround place claimed.tree used.tree) :
    ∃ last, Effect.run (remove ⟨path⟩) used = (.ok (), last) ∧
      Traceless w.tree last.tree place := by
  have huse := hmade.inUse hused
  have hsettles : Settles used.tree place (startOf used.cwd path) (names path) := by
    rw [hcwd]
    exact settles_of_inUse huse h
  rcases remove_settled hpath hsettles huse.directory with ⟨last, hrun, hremoved⟩
  refine ⟨last, hrun, Traceless.of_removed hmade.free hmade.claimed hused ?_⟩
  rcases hremoved with ⟨_, hgone⟩ | ⟨hends, hemptied⟩
  · exact Or.inl hgone
  · exact Or.inr ⟨hmade.ends.resolve_left hends, hemptied⟩

/-!
## The empty path

The empty path finds nothing, but a name joined to it stands in the working directory. So the
working directory is claimed whatever is in it, and nothing is found when it is to be removed.
-/

theorem create_empty_path (hpath : path = "") (hcwd : w.tree.entry? w.cwd = some .directory)
    (hfree : w.tree.entry? (w.cwd ++ [workspaceMarker]) ≠ some .directory) :
    ∃ executable, Effect.run (create path) w = (.ok ⟨path⟩, { w with
      tree := w.tree.insert (w.cwd ++ [workspaceMarker])
        (.file (.bytes ByteArray.empty) executable) }) := by
  subst hpath
  have hleads : Leads w.tree w.cwd "" w.cwd := ⟨rfl, hcwd⟩
  have hsite : siteAt "" w.tree w.cwd = .vacant := rfl
  have hmake : Effect.run (Effect.makeDirectories "") w = (.ok (), w) := rfl
  rcases hleads.writeContent_join isName_workspaceMarker hfree (.bytes ByteArray.empty) with
    ⟨executable, _, hwrite⟩
  refine ⟨executable, ?_⟩
  unfold create
  rw [Effect.run_bind_of_ok (prepareSite_open (Or.inl hsite)), Effect.run_bind_of_ok hmake,
    Effect.run_bind_of_ok (Effect.run_writeBytes_of_ok hwrite), Effect.run_pure]

theorem remove_empty_path (hpath : path = "") (w : World) :
    Effect.run (remove ⟨path⟩) w = (.ok (), w) := by
  subst hpath
  unfold remove
  rw [Effect.run_bind, Effect.run_attempt, Effect.run_removeDirectory]
  rfl

end

end Workspace
end TileAudit
