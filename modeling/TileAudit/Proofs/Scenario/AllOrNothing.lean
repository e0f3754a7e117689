import TileAudit.Proofs.FileTree.Surroundings
import TileAudit.Proofs.GeoTiff.Refusal
import TileAudit.Proofs.Scenario.Preparation
import TileAudit.Proofs.Workspace.Confinement

/-!
# Preparing a scenario, all or nothing

A workspace is filled with four entries, or what was filled is removed again with the workspace. In
neither case does anything change around the workspace, but for the directories above it that were
missing.
-/

namespace TileAudit
namespace Scenario

open FileTree PathText

/-!
## The steps of filling a workspace

Each step puts one entry into the place of the workspace, or is refused. The raster file is made
before the raster is encoded, so a raster that is refused leaves an empty file until the workspace
is removed.
-/

theorem isName_cacheDir : IsName "cache_data" where
  ne_empty := by decide
  no_slash := by decide
  ne_point := by decide
  ne_points := by decide

def withCache (t : FileTree) (place : Location) : FileTree :=
  t.insert (place ++ ["cache_data"]) .directory

def withRaster (t : FileTree) (place : Location) (file : ByteArray) : FileTree :=
  t.insert (place ++ ["synthetic_test_data.tif"]) (.file (.bytes file) false)

def withConfiguration (t : FileTree) (place : Location) (text : String) : FileTree :=
  t.insert (place ++ ["mapcache.xml"]) (.file (.bytes text.toUTF8) false)

section

variable {config : Config} {w : World} {place : Location}

theorem run_makeCache (h : Leads w.tree w.cwd config.workDir place)
    (hfree : w.tree.entry? (place ++ ["cache_data"]) = none) :
    Effect.run (Effect.makeDirectories config.cacheBase) w =
      (.ok (), { w with tree := withCache w.tree place }) := by
  rw [Effect.run_makeDirectories, Config.cacheBase, h.makeDirectories_join isName_cacheDir hfree]
  rfl

theorem run_beginRaster (h : Leads w.tree w.cwd config.workDir place)
    (hfree : w.tree.entry? (place ++ ["synthetic_test_data.tif"]) = none) :
    Effect.run (Effect.writeBytes config.rasterPath ByteArray.empty) w =
      (.ok (), { w with tree := withRaster w.tree place ByteArray.empty }) :=
  Effect.run_writeBytes_of_ok (h.writeContent_join_none isName_rasterFile hfree _)

theorem entry?_withRaster {t : FileTree} (hplace : t.entry? place = some .directory)
    (hfree : t.entry? (place ++ ["synthetic_test_data.tif"]) ≠ some .directory)
    (file : ByteArray) :
    FileTree.entry? (withRaster t place file) (place ++ ["synthetic_test_data.tif"]) =
      some (.file (.bytes file) false) :=
  entry?_insert_self t (fits_file t hplace hfree)

theorem run_writeRaster_of_error [TiffCodec] (h : Leads w.tree w.cwd config.workDir place)
    (hfree : w.tree.entry? (place ++ ["synthetic_test_data.tif"]) = none) {fault : Fault}
    (hencode : GeoTiff.encode (sourceRaster config) = .error fault) :
    Effect.run ((sourceRaster config).write config.rasterPath) w =
      (.error fault, { w with tree := withRaster w.tree place ByteArray.empty }) :=
  SyntheticRaster.run_write_of_encode_error
    (h.writeContent_join_none isName_rasterFile hfree (.bytes ByteArray.empty)) hencode

theorem run_writeRaster_of_ok [TiffCodec] (h : Leads w.tree w.cwd config.workDir place)
    (hfree : w.tree.entry? (place ++ ["synthetic_test_data.tif"]) = none) {file : ByteArray}
    (hencode : GeoTiff.encode (sourceRaster config) = .ok file) :
    Effect.run ((sourceRaster config).write config.rasterPath) w =
      (.ok (), ⟨withRaster (withRaster w.tree place ByteArray.empty) place file, w.cwd,
        w.events ++ [.wroteRaster config.rasterPath]⟩) := by
  have hnot : w.tree.entry? (place ++ ["synthetic_test_data.tif"]) ≠ some .directory := by
    rw [hfree]
    simp
  have hbegun : Leads (withRaster w.tree place ByteArray.empty) w.cwd config.workDir place :=
    h.of_inserted hnot
  have hfile := hbegun.writeContent_join_file isName_rasterFile
    (entry?_withRaster h.directory hnot ByteArray.empty) (.bytes file)
  have hwrite : Effect.run (Effect.writeBytes config.rasterPath file)
      { w with tree := withRaster w.tree place ByteArray.empty } =
        (.ok (),
          { w with tree := withRaster (withRaster w.tree place ByteArray.empty) place file }) :=
    Effect.run_writeBytes_of_ok hfile
  unfold SyntheticRaster.write
  rw [Effect.run_bind_of_ok (run_beginRaster h hfree), Effect.run_bind, Effect.run_ofExcept, hencode]
  dsimp only
  rw [Effect.run_bind_of_ok hwrite, Effect.run_tell]

theorem run_writeConfiguration_of_error {fault : ConfigFault}
    (htext : config.rendered w.tree w.cwd = .error fault) :
    Effect.run config.write w = (.error (.config fault), w) :=
  Config.run_write_eq_config_iff.mpr ⟨Config.rendered_eq_error_iff.mp htext, rfl⟩

theorem run_writeConfiguration_of_ok (h : Leads w.tree w.cwd config.workDir place)
    (hfree : w.tree.entry? (place ++ ["mapcache.xml"]) = none) {text : String}
    (htext : config.rendered w.tree w.cwd = .ok text) :
    Effect.run config.write w =
      (.ok config.configPath, ⟨withConfiguration w.tree place text, w.cwd,
        w.events ++ [.wroteConfig config.configPath]⟩) := by
  have hparents : Effect.run (Effect.makeParents config.configPath) w = (.ok (), w) := by
    rw [Effect.run_makeParents, Config.configPath, h.makeParents_join isName_configFile]
    rfl
  have hfile := h.writeContent_join_none isName_configFile hfree (.bytes text.toUTF8)
  have hwrite : Effect.run (Effect.writeBytes config.configPath text.toUTF8) w =
      (.ok (), { w with tree := withConfiguration w.tree place text }) :=
    Effect.run_writeBytes_of_ok hfile
  unfold Config.write
  rw [Effect.run_bind, Effect.run_inspect, htext]
  dsimp only
  rw [Effect.run_bind_of_ok hparents, Effect.run_bind_of_ok hwrite,
    Effect.run_bind_of_ok (Effect.run_tell _ _), Effect.run_pure]

end

/-- A place without the entries that a workspace is filled with. -/
structure Unfilled (t : FileTree) (place : Location) : Prop where
  cache : t.entry? (place ++ ["cache_data"]) = none
  raster : t.entry? (place ++ ["synthetic_test_data.tif"]) = none
  configuration : t.entry? (place ++ ["mapcache.xml"]) = none

def withSource (t : FileTree) (place : Location) (file : ByteArray) : FileTree :=
  withRaster (withRaster (withCache t place) place ByteArray.empty) place file

section

variable {config : Config} {w w' : World} {place : Location}

theorem entry?_withCache_of_ne (t : FileTree) {name : String} (hname : name ≠ "cache_data") :
    FileTree.entry? (withCache t place) (place ++ [name]) = t.entry? (place ++ [name]) :=
  entry?_insert_sibling t _ hname

theorem entry?_withRaster_of_ne (t : FileTree) (file : ByteArray) {name : String}
    (hname : name ≠ "synthetic_test_data.tif") :
    FileTree.entry? (withRaster t place file) (place ++ [name]) = t.entry? (place ++ [name]) :=
  entry?_insert_sibling t _ hname

theorem entry?_withSource_of_ne (t : FileTree) (file : ByteArray) {name : String}
    (hcache : name ≠ "cache_data") (hraster : name ≠ "synthetic_test_data.tif") :
    FileTree.entry? (withSource t place file) (place ++ [name]) = t.entry? (place ++ [name]) := by
  unfold withSource
  rw [entry?_withRaster_of_ne _ file hraster, entry?_withRaster_of_ne _ _ hraster,
    entry?_withCache_of_ne t hcache]

theorem sameAround_withSource (t : FileTree) (place : Location) (file : ByteArray) :
    SameAround place t (withSource t place file) :=
  ((sameAround_insert place t _ _).trans (sameAround_insert place _ _ _)).trans
    (sameAround_insert place _ _ _)

theorem raster_withCache {t : FileTree} (hfree : Unfilled t place) :
    FileTree.entry? (withCache t place) (place ++ ["synthetic_test_data.tif"]) = none := by
  rw [entry?_withCache_of_ne t (by decide)]
  exact hfree.raster

theorem configuration_withSource {t : FileTree} (hfree : Unfilled t place) (file : ByteArray) :
    FileTree.entry? (withSource t place file) (place ++ ["mapcache.xml"]) = none := by
  rw [entry?_withSource_of_ne t file (by decide) (by decide)]
  exact hfree.configuration

theorem leads_withCache (h : Leads w.tree w.cwd config.workDir place)
    (hfree : Unfilled w.tree place) :
    Leads (withCache w.tree place) w.cwd config.workDir place := by
  apply h.of_inserted
  rw [hfree.cache]
  simp

theorem leads_withSource (h : Leads w.tree w.cwd config.workDir place)
    (hfree : Unfilled w.tree place) (file : ByteArray) :
    Leads (withSource w.tree place file) w.cwd config.workDir place := by
  have hcached := leads_withCache h hfree
  have hnot : FileTree.entry? (withCache w.tree place)
      (place ++ ["synthetic_test_data.tif"]) ≠ some .directory := by
    rw [raster_withCache hfree]
    simp
  have hbegun : Leads (withRaster (withCache w.tree place) place ByteArray.empty) w.cwd
      config.workDir place := hcached.of_inserted hnot
  apply hbegun.of_inserted
  rw [entry?_withRaster hcached.directory hnot]
  simp

theorem fill_eq [TiffCodec] (config : Config) : fill config = (do
    Effect.makeDirectories config.cacheBase
    (sourceRaster config).write config.rasterPath
    config.write) := rfl

theorem fill_cases [TiffCodec] (h : Leads w.tree w.cwd config.workDir place)
    (hfree : Unfilled w.tree place) :
    (∃ fault, GeoTiff.encode (sourceRaster config) = .error fault ∧
      Effect.run (fill config) w = (.error fault,
        { w with tree := withRaster (withCache w.tree place) place ByteArray.empty })) ∨
    ∃ file, GeoTiff.encode (sourceRaster config) = .ok file ∧
      ((∃ fault, config.rendered (withSource w.tree place file) w.cwd = .error fault ∧
        Effect.run (fill config) w = (.error (.config fault),
          ⟨withSource w.tree place file, w.cwd,
            w.events ++ [.wroteRaster config.rasterPath]⟩)) ∨
      ∃ text, config.rendered (withSource w.tree place file) w.cwd = .ok text ∧
        Effect.run (fill config) w = (.ok config.configPath,
          ⟨withConfiguration (withSource w.tree place file) place text, w.cwd,
            w.events ++ [.wroteRaster config.rasterPath] ++ [.wroteConfig config.configPath]⟩)) := by
  let cached : World := { w with tree := withCache w.tree place }
  have hstart : Effect.run (Effect.makeDirectories config.cacheBase) w = (.ok (), cached) :=
    run_makeCache h hfree.cache
  have hcached : Leads cached.tree cached.cwd config.workDir place := leads_withCache h hfree
  rw [fill_eq, Effect.run_bind_of_ok hstart]
  cases hencode : GeoTiff.encode (sourceRaster config) with
  | error fault =>
      have hraster := run_writeRaster_of_error hcached (raster_withCache hfree) hencode
      exact Or.inl ⟨fault, rfl, Effect.run_bind_of_error hraster _⟩
  | ok file =>
      refine Or.inr ⟨file, rfl, ?_⟩
      let filled : World :=
        ⟨withSource w.tree place file, w.cwd, w.events ++ [.wroteRaster config.rasterPath]⟩
      have hraster : Effect.run ((sourceRaster config).write config.rasterPath) cached =
          (.ok (), filled) := run_writeRaster_of_ok hcached (raster_withCache hfree) hencode
      rw [Effect.run_bind_of_ok hraster]
      cases htext : config.rendered (withSource w.tree place file) w.cwd with
      | error fault => exact Or.inl ⟨fault, rfl, run_writeConfiguration_of_error (w := filled) htext⟩
      | ok text =>
          exact Or.inr ⟨text, rfl, run_writeConfiguration_of_ok (w := filled)
            (leads_withSource h hfree file) (configuration_withSource hfree file) htext⟩

theorem sameAround_of_run_fill [TiffCodec] {outcome : Except Fault String}
    (h : Leads w.tree w.cwd config.workDir place) (hfree : Unfilled w.tree place)
    (hrun : Effect.run (fill config) w = (outcome, w')) :
    w'.cwd = w.cwd ∧ SameAround place w.tree w'.tree := by
  rcases fill_cases h hfree with
    ⟨fault, _, hfill⟩ | ⟨file, _, ⟨fault, _, hfill⟩ | ⟨text, _, hfill⟩⟩
  · cases hrun.symm.trans hfill
    exact ⟨rfl, (sameAround_insert place w.tree _ _).trans (sameAround_insert place _ _ _)⟩
  · cases hrun.symm.trans hfill
    exact ⟨rfl, sameAround_withSource w.tree place file⟩
  · cases hrun.symm.trans hfill
    exact ⟨rfl, (sameAround_withSource w.tree place file).trans (sameAround_insert place _ _ _)⟩

end

/-- A workspace that is filled: a directory with the mark, an empty cache directory, the cache
configuration and the raster file, and nothing else. -/
structure Furnished (t : FileTree) (place : Location) (text : String) (file : ByteArray) :
    Prop where
  directory : t.entry? place = some .directory
  marker : t.entry? (place ++ [workspaceMarker]) = some (.file (.bytes ByteArray.empty) false)
  cache : t.entry? (place ++ ["cache_data"]) = some .directory
  configuration : t.entry? (place ++ ["mapcache.xml"]) = some (.file (.bytes text.toUTF8) false)
  raster : t.entry? (place ++ ["synthetic_test_data.tif"]) = some (.file (.bytes file) false)
  bare : ∀ inside, place <+: inside → inside ≠ place → inside ≠ place ++ [workspaceMarker] →
    inside ≠ place ++ ["cache_data"] → inside ≠ place ++ ["mapcache.xml"] →
    inside ≠ place ++ ["synthetic_test_data.tif"] → t.entry? inside = none

section

variable {before t : FileTree} {place : Location}

theorem entry?_withConfiguration_of_ne (t : FileTree) (text : String) {name : String}
    (hname : name ≠ "mapcache.xml") :
    FileTree.entry? (withConfiguration t place text) (place ++ [name]) =
      t.entry? (place ++ [name]) :=
  entry?_insert_sibling t _ hname

theorem unfilled_of_claimed (h : Workspace.Claimed before t place) : Unfilled t place where
  cache := h.bare _ (List.prefix_append _ _) (by simp) (by simp [workspaceMarker])
  raster := h.bare _ (List.prefix_append _ _) (by simp) (by simp [workspaceMarker])
  configuration := h.bare _ (List.prefix_append _ _) (by simp) (by simp [workspaceMarker])

theorem furnished_of_claimed (h : Workspace.Claimed before t place) (text : String)
    (file : ByteArray) :
    Furnished (withConfiguration (withSource t place file) place text) place text file := by
  have hfree := unfilled_of_claimed h
  have hplace : t.entry? place = some .directory := h.directory place (List.prefix_refl _)
  have hsource := sameAround_withSource t place file
  have hcached : FileTree.entry? (withCache t place) place = some .directory :=
    (sameAround_insert place t _ _).directory hplace
  have hbegun : FileTree.entry? (withRaster (withCache t place) place ByteArray.empty) place =
      some .directory := (sameAround_insert place _ _ _).directory hcached
  refine ⟨?_, ?_, ?_, ?_, ?_, ?_⟩
  · exact (sameAround_insert place _ _ _).directory (hsource.directory hplace)
  · rw [entry?_withConfiguration_of_ne _ text (by decide),
      entry?_withSource_of_ne t file (by decide) (by decide)]
    exact h.marked
  · rw [entry?_withConfiguration_of_ne _ text (by decide), withSource,
      entry?_withRaster_of_ne _ file (by decide), entry?_withRaster_of_ne _ _ (by decide)]
    exact entry?_insert_self t (fits_directory t hplace)
  · apply entry?_insert_self
    apply fits_file _ (hsource.directory hplace)
    rw [configuration_withSource hfree]
    simp
  · have hnot : FileTree.entry? (withCache t place)
        (place ++ ["synthetic_test_data.tif"]) ≠ some .directory := by
      rw [raster_withCache hfree]
      simp
    rw [entry?_withConfiguration_of_ne _ text (by decide)]
    apply entry?_withRaster hbegun
    rw [entry?_withRaster hcached hnot]
    simp
  · intro inside hinside hne hmarker hcache hconfiguration hraster
    rw [withConfiguration, entry?_insert_of_ne _ _ hconfiguration, withSource, withRaster,
      entry?_insert_of_ne _ _ hraster, withRaster, entry?_insert_of_ne _ _ hraster, withCache,
      entry?_insert_of_ne _ _ hcache]
    exact h.bare inside hinside hne hmarker

end

theorem template_of_entries_kept {config : Config} {t t' : FileTree} {cwd : Location}
    {template : String} (hkept : ∀ l entry, t.entry? l = some entry → t'.entry? l = some entry)
    (h : config.template t cwd = .ok template) : config.template t' cwd = .ok template := by
  unfold Config.template at h ⊢
  cases hpath : config.templatePath with
  | none =>
      rw [hpath] at h
      exact h
  | some path =>
      rw [hpath] at h
      dsimp only at h ⊢
      unfold Config.readTemplate FileTree.readBytes at h ⊢
      cases hread : t.readContent cwd path with
      | error kind =>
          rw [hread] at h
          cases h
      | ok content =>
          rw [readContent_of_entries_kept hkept hread]
          rw [hread] at h
          exact h

theorem entries_kept_withConfiguration {t : FileTree} {place : Location}
    (hfree : t.entry? (place ++ ["mapcache.xml"]) = none) (text : String) (l : Location)
    (entry : Entry) (hl : t.entry? l = some entry) :
    FileTree.entry? (withConfiguration t place text) l = some entry := by
  have hne : l ≠ place ++ ["mapcache.xml"] := by
    rintro rfl
    rw [hfree] at hl
    cases hl
  rw [withConfiguration, entry?_insert_of_ne _ _ hne]
  exact hl

/-!
## Preparing a scenario

A scenario is refused with its workspace, given up with its workspace removed, or prepared.
-/

section

variable [TiffCodec] {config : Config} {w w' claimed filled : World} {fault : Fault}

theorem run_prepare_of_refused
    (hcreate : Effect.run (Workspace.create config.workDir) w = (.error fault, w')) :
    Effect.run (prepare config) w = (.error fault, w') := by
  unfold prepare
  exact Effect.run_bind_of_error hcreate _

theorem run_prepare_of_failed
    (hcreate : Effect.run (Workspace.create config.workDir) w = (.ok ⟨config.workDir⟩, claimed))
    (hfill : Effect.run (fill config) claimed = (.error fault, filled))
    (hremove : Effect.run (Workspace.remove ⟨config.workDir⟩) filled = (.ok (), w')) :
    Effect.run (prepare config) w = (.error fault, w') := by
  unfold prepare
  rw [Effect.run_bind_of_ok hcreate, Effect.run_bind_of_ok (Effect.run_attempt _ _), hfill]
  dsimp only
  rw [Effect.run_bind_of_ok hremove, Effect.run_ofExcept]

theorem run_prepare_of_filled {configFile : String}
    (hcreate : Effect.run (Workspace.create config.workDir) w = (.ok ⟨config.workDir⟩, claimed))
    (hfill : Effect.run (fill config) claimed = (.ok configFile, filled)) :
    Effect.run (prepare config) w =
      (.ok ⟨config, configFile, ⟨config.workDir⟩⟩, filled) := by
  unfold prepare
  rw [Effect.run_bind_of_ok hcreate, Effect.run_bind_of_ok (Effect.run_attempt _ _), hfill]
  rfl

end

theorem around_of_claimed {before t after : FileTree} {place : Location}
    (h : Workspace.Claimed before t place)
    (hsame : ∀ other, ¬ place <+: other → after.entry? other = t.entry? other) {other : Location}
    (hother : ¬ place <+: other) :
    after.entry? other = before.entry? other ∨ IsMadeAbove before after place other := by
  rw [IsMadeAbove, hsame other hother]
  by_cases hmissing : other <+: place ∧ before.entry? other = none
  · exact Or.inr ⟨hmissing.1, hmissing.2, h.directory other hmissing.1⟩
  · exact Or.inl (h.outside other hother fun habove hnone => hmissing ⟨habove, hnone⟩)

section

variable [TiffCodec] {config : Config} {scenario : Scenario} {w w' : World}
  {outcome : Except Fault Scenario}

theorem prepare_cases (hpath : IsPlain config.workDir) (w : World) :
    (∃ fault, Effect.run (Workspace.create config.workDir) w = (.error fault, w) ∧
      Effect.run (prepare config) w = (.error fault, w)) ∨
    ∃ claimed : World,
      Effect.run (Workspace.create config.workDir) w = (.ok ⟨config.workDir⟩, claimed) ∧
      Workspace.Claimed w.tree claimed.tree (names config.workDir) ∧
      ((∃ fault last, Effect.run (prepare config) w = (.error fault, last) ∧
        ∀ loc, last.tree.entry? loc =
          if names config.workDir <+: loc then none else claimed.tree.entry? loc) ∨
      ∃ file text filled, GeoTiff.encode (sourceRaster config) = .ok file ∧
        config.rendered (withSource claimed.tree (names config.workDir) file) claimed.cwd =
          .ok text ∧
        Effect.run (prepare config) w =
          (.ok ⟨config, config.configPath, ⟨config.workDir⟩⟩, filled) ∧
        filled.cwd = claimed.cwd ∧
        filled.tree = withConfiguration
          (withSource claimed.tree (names config.workDir) file) (names config.workDir) text) := by
  rcases hcreate : Effect.run (Workspace.create config.workDir) w with ⟨created, claimed⟩
  rcases Workspace.create_cases hpath hcreate with ⟨_, _, rfl, rfl⟩ | ⟨_, _, ⟨kind, rfl⟩, rfl⟩ |
    ⟨_, _, rfl, hclaimed⟩
  · exact Or.inl ⟨_, rfl, run_prepare_of_refused hcreate⟩
  · exact Or.inl ⟨_, rfl, run_prepare_of_refused hcreate⟩
  · refine Or.inr ⟨claimed, rfl, hclaimed, ?_⟩
    have hplace := hclaimed.directory _ (List.prefix_refl _)
    have hleads := hpath.leads claimed.cwd hplace
    have hfree := unfilled_of_claimed hclaimed
    rcases hfill : Effect.run (fill config) claimed with ⟨result, filled⟩
    have haround := (sameAround_of_run_fill hleads hfree hfill).2
    cases result with
    | error fault =>
        have hremove := Workspace.remove_directory hpath (haround.directory hplace)
        refine Or.inl ⟨fault, _, run_prepare_of_failed hcreate hfill hremove, ?_⟩
        intro loc
        rw [entry?_erase filled.tree hpath.ne_root]
        by_cases hloc : names config.workDir <+: loc
        · rw [if_pos hloc, if_pos hloc]
        · rw [if_neg hloc, if_neg hloc]
          exact haround loc fun hbelow => hloc hbelow.1
    | ok configFile =>
        rcases fill_cases hleads hfree with
          ⟨fault, _, hfault⟩ | ⟨file, hencode, ⟨fault, _, hfault⟩ | ⟨text, htext, hdone⟩⟩
        · cases hfill.symm.trans hfault
        · cases hfill.symm.trans hfault
        · cases hfill.symm.trans hdone
          exact Or.inr ⟨file, text, _, hencode, htext, run_prepare_of_filled hcreate hdone, rfl,
            rfl⟩

theorem contents_of_filled {claimed filled : World} {file : ByteArray} {text : String}
    (hclaimed : Workspace.Claimed w.tree claimed.tree (names config.workDir))
    (hencode : GeoTiff.encode (sourceRaster config) = .ok file)
    (htext : config.rendered (withSource claimed.tree (names config.workDir) file) claimed.cwd =
      .ok text)
    (hprepare : Effect.run (prepare config) w = (.ok scenario, filled))
    (hcwd : filled.cwd = claimed.cwd)
    (htree : filled.tree = withConfiguration
      (withSource claimed.tree (names config.workDir) file) (names config.workDir) text) :
    ∃ template text file,
      config.template filled.tree filled.cwd = .ok template ∧
      Template.render template config.rasterPath config.cacheBase = .ok text ∧
      Furnished filled.tree (names config.workDir) text file ∧
      GeoTiff.encode (sourceRaster config) = .ok file ∧
      (TiffCodec.Restores → ∃ raster decoded, (sourceRaster config).toRaster = .ok raster ∧
        rasterIn config.rasterPath filled.tree filled.cwd = .ok decoded ∧
        (decoded == raster) = true) := by
  rcases Config.exists_template_of_rendered htext with ⟨template, htemplate, hrender⟩
  rcases exists_of_run_prepare hprepare with ⟨_, file', hencode', hfile⟩
  cases hencode.symm.trans hencode'
  have hfree := configuration_withSource (unfilled_of_claimed hclaimed) file
  refine ⟨template, text, file, ?_, hrender, ?_, hencode, ?_⟩
  · rw [htree, hcwd]
    exact template_of_entries_kept (entries_kept_withConfiguration hfree text) htemplate
  · rw [htree]
    exact furnished_of_claimed hclaimed text file
  · intro hcodec
    rcases GeoTiff.decode_encode hcodec hencode with ⟨raster, decoded, hraster, hdecode, hequal⟩
    exact ⟨raster, decoded, hraster, rasterIn_of_decode hfile hdecode, hequal⟩

/-- Preparing a scenario is all or nothing. Around its workspace nothing changes, but for
directories above it that were missing. A workspace that cannot be made leaves the whole tree alone;
a later fault leaves nothing at the workspace's place; and a prepared workspace holds its mark, an
empty cache directory, the configuration that the template gives, the file of the source raster, and
nothing else; a library that finds in a file what it wrote reads that file as the source raster. -/
theorem prepare_all_or_nothing (hpath : IsPlain config.workDir)
    (hrun : Effect.run (prepare config) w = (outcome, w')) :
    (∀ other, ¬ names config.workDir <+: other →
      w'.tree.entry? other = w.tree.entry? other ∨
        IsMadeAbove w.tree w'.tree (names config.workDir) other) ∧
    (∀ fault, (Effect.run (Workspace.create config.workDir) w).1 = .error fault →
      outcome = .error fault ∧ w'.tree = w.tree) ∧
    (∀ workspace fault, (Effect.run (Workspace.create config.workDir) w).1 = .ok workspace →
      outcome = .error fault →
      ∀ inside, names config.workDir <+: inside → w'.tree.entry? inside = none) ∧
    ∀ scenario, outcome = .ok scenario →
      scenario = ⟨config, config.configPath, ⟨config.workDir⟩⟩ ∧
      ∃ template text file,
        config.template w'.tree w'.cwd = .ok template ∧
        Template.render template config.rasterPath config.cacheBase = .ok text ∧
        Furnished w'.tree (names config.workDir) text file ∧
        GeoTiff.encode (sourceRaster config) = .ok file ∧
        (TiffCodec.Restores → ∃ raster decoded, (sourceRaster config).toRaster = .ok raster ∧
          rasterIn config.rasterPath w'.tree w'.cwd = .ok decoded ∧
          (decoded == raster) = true) := by
  rcases prepare_cases hpath w with ⟨fault, hcreate, hprepare⟩ |
    ⟨claimed, hcreate, hclaimed, ⟨fault, last, hprepare, hlast⟩ |
      ⟨file, text, filled, hencode, htext, hprepare, hcwd, htree⟩⟩
  · cases hrun.symm.trans hprepare
    rw [hcreate]
    refine ⟨fun _ _ => Or.inl rfl, ?_, ?_, ?_⟩
    · intro fault' h
      cases h
      exact ⟨rfl, rfl⟩
    · intro workspace fault' h
      cases h
    · intro scenario h
      cases h
  · cases hrun.symm.trans hprepare
    rw [hcreate]
    have hsame : ∀ other, ¬ names config.workDir <+: other →
        w'.tree.entry? other = claimed.tree.entry? other := by
      intro other hother
      rw [hlast, if_neg hother]
    refine ⟨fun other hother => around_of_claimed hclaimed hsame hother, ?_, ?_, ?_⟩
    · intro fault' h
      cases h
    · intro workspace fault' _ _ inside hinside
      rw [hlast, if_pos hinside]
    · intro scenario h
      cases h
  · cases hrun.symm.trans hprepare
    rw [hcreate]
    have hsame : ∀ other, ¬ names config.workDir <+: other →
        w'.tree.entry? other = claimed.tree.entry? other := by
      intro other hother
      rw [htree]
      exact ((sameAround_withSource _ _ file).trans (sameAround_insert _ _ _ _)) other
        fun hbelow => hother hbelow.1
    refine ⟨fun other hother => around_of_claimed hclaimed hsame hother, ?_, ?_, ?_⟩
    · intro fault' h
      cases h
    · intro workspace fault' _ h
      cases h
    · intro scenario h
      cases h
      exact ⟨rfl, contents_of_filled hclaimed hencode htext hprepare hcwd htree⟩

end

theorem prepare_all_or_nothing_small :
    ∃ scenario w', Effect.run (prepare smallConfig) ⟨templateTree, [], []⟩ = (.ok scenario, w') ∧
      ∃ template text file raster decoded,
        smallConfig.template w'.tree w'.cwd = .ok template ∧
        Template.render template smallConfig.rasterPath smallConfig.cacheBase = .ok text ∧
        Furnished w'.tree ["run"] text file ∧
        (sourceRaster smallConfig).toRaster = .ok raster ∧
        rasterIn smallConfig.rasterPath w'.tree w'.cwd = .ok decoded ∧
        (decoded == raster) = true := by
  have hok : (Effect.run (prepare smallConfig) ⟨templateTree, [], []⟩).1.isOk = true := by
    decide +kernel
  rcases hrun : Effect.run (prepare smallConfig) ⟨templateTree, [], []⟩ with ⟨outcome, w'⟩
  rw [hrun] at hok
  cases outcome with
  | error fault => cases hok
  | ok scenario =>
      have hpath : IsPlain smallConfig.workDir := Workspace.isPlain_run
      rcases (prepare_all_or_nothing hpath hrun).2.2.2 scenario rfl with
        ⟨_, template, text, file, htemplate, hrender, hfurnished, _, hread⟩
      rcases hread Tiff.restores with ⟨raster, decoded, hraster, hdecoded, hequal⟩
      exact ⟨scenario, w', rfl, template, text, file, raster, decoded, htemplate, hrender,
        hfurnished, hraster, hdecoded, hequal⟩

end Scenario
end TileAudit
