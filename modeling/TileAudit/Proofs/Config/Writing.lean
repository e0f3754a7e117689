import TileAudit.Config.Basic
import TileAudit.Proofs.Effect.Run
import TileAudit.Proofs.FileTree.Contents
import TileAudit.Proofs.FileTree.Surroundings

/-!
# Writing the cache configuration

The text of a configuration is settled before anything is made, so a template that cannot be used
leaves the whole world alone. Later on only directories above the configuration are made, and at
last the configuration is written. The template may be the file that is written: it has been read by
then.
-/

namespace TileAudit

namespace FileTree

open PathText

def IsNewDirectory (before after : FileTree) (loc : Location) : Prop :=
  before.entry? loc = none ∧ after.entry? loc = some .directory

def IsAbove (cwd : Location) (path : String) (loc : Location) : Prop :=
  ∃ front, front <+: (names path).dropLast ∧ loc = front.foldl step (startOf cwd path)

theorem entry?_insert_directory {t : FileTree} {loc : Location} (hnone : t.entry? loc = none)
    (other : Location) :
    entry? (t.insert loc .directory) other = t.entry? other ∨
      (other = loc ∧ IsNewDirectory t (t.insert loc .directory) other) := by
  by_cases hfits : t.fits loc .directory = true
  · by_cases hother : other = loc
    · rw [hother]
      exact Or.inr ⟨rfl, hnone, entry?_insert_self t hfits⟩
    · exact Or.inl (entry?_insert_of_ne t .directory hother)
  · unfold insert
    rw [dif_neg hfits]
    exact Or.inl rfl

theorem makeAlong_changes (t : FileTree) (names : List String) (loc other : Location) :
    entry? (t.makeAlong loc names).1 other = t.entry? other ∨
      (∃ front, front <+: names ∧ other = front.foldl step loc) ∧
        IsNewDirectory t (t.makeAlong loc names).1 other := by
  induction names generalizing t loc with
  | nil => exact Or.inl rfl
  | cons name rest ih =>
      rw [makeAlong]
      cases hentry : t.entry? (step loc name) with
      | none =>
          dsimp only
          have hon : step loc name = [name].foldl step loc := rfl
          rcases ih (t.insert (step loc name) .directory) (step loc name) with
            hsame | ⟨⟨front, hfront, hway⟩, hnone, hmade⟩
          · rcases entry?_insert_directory hentry other with hkept | ⟨rfl, hnew⟩
            · exact Or.inl (hsame.trans hkept)
            · refine Or.inr ⟨⟨[name], ?_, hon⟩, hnew.1, hsame.trans hnew.2⟩
              exact List.cons_prefix_cons.mpr ⟨rfl, List.nil_prefix⟩
          · refine Or.inr ⟨⟨name :: front, List.cons_prefix_cons.mpr ⟨rfl, hfront⟩, hway⟩, ?_, hmade⟩
            rcases entry?_insert_directory hentry other with hkept | ⟨_, hnew⟩
            · exact hkept.symm.trans hnone
            · exact hnew.1
      | some entry =>
          cases entry with
          | file content executable => exact Or.inl rfl
          | directory =>
              rcases ih t (step loc name) with hsame | ⟨⟨front, hfront, hway⟩, hnew⟩
              · exact Or.inl hsame
              · exact Or.inr
                  ⟨⟨name :: front, List.cons_prefix_cons.mpr ⟨rfl, hfront⟩, hway⟩, hnew⟩

theorem fst_makeParents (t : FileTree) (cwd : Location) (path : String) :
    (t.makeParents cwd path).1 =
      (t.makeAlong (startOf cwd path) (withoutPoints (names path).dropLast)).1 :=
  rfl

theorem makeParents_changes (t : FileTree) (cwd : Location) (path : String) (other : Location) :
    entry? (t.makeParents cwd path).1 other = t.entry? other ∨
      IsAbove cwd path other ∧ IsNewDirectory t (t.makeParents cwd path).1 other := by
  rcases exists_points (names path).dropLast with ⟨points, _, hnames⟩
  have hbare : withoutPoints (names path).dropLast <+: (names path).dropLast :=
    ⟨points, hnames.symm⟩
  rw [fst_makeParents]
  rcases makeAlong_changes t (withoutPoints (names path).dropLast) (startOf cwd path) other with
    hsame | ⟨⟨front, hfront, hway⟩, hnew⟩
  · exact Or.inl hsame
  · exact Or.inr ⟨⟨front, hfront.trans hbare, hway⟩, hnew⟩

end FileTree

namespace Config

open PathText FileTree

/-!
## Texts that cannot be settled

The template is read and rendered first. Of several reasons why it cannot be used the first one
counts.
-/

/-- What is wrong with the template of a configuration, where the first of several reasons
counts. -/
inductive Unsettled (config : Config) (t : FileTree) (cwd : Location) : ConfigFault → Prop where
  | unreadable {path : String} {kind : IoKind} : config.templatePath = some path →
      t.readBytes cwd path = .error kind →
      Unsettled config t cwd (.unreadableTemplate path kind.text)
  | notText {path : String} {bytes : ByteArray} : config.templatePath = some path →
      t.readBytes cwd path = .ok bytes → Utf8.strict? bytes = none →
      Unsettled config t cwd (.unreadableTemplate path "stream did not contain valid UTF-8")
  | noRaster {template : String} : config.template t cwd = .ok template →
      Template.holds template Template.rasterToken = false →
      Unsettled config t cwd (.missingPlaceholder Template.rasterToken)
  | noCache {template : String} : config.template t cwd = .ok template →
      Template.holds template Template.rasterToken = true →
      Template.holds template Template.cacheToken = false →
      Unsettled config t cwd (.missingPlaceholder Template.cacheToken)

section

variable {config : Config} {t : FileTree} {cwd : Location} {fault : ConfigFault}
  {template text : String}

theorem rendered_of_template (h : config.template t cwd = .ok template) :
    config.rendered t cwd = Template.render template config.rasterPath config.cacheBase := by
  unfold rendered
  rw [h]
  rfl

theorem rendered_of_template_error (h : config.template t cwd = .error fault) :
    config.rendered t cwd = .error fault := by
  unfold rendered
  rw [h]
  rfl

theorem exists_template_of_rendered (h : config.rendered t cwd = .ok text) :
    ∃ template, config.template t cwd = .ok template ∧
      Template.render template config.rasterPath config.cacheBase = .ok text := by
  cases htemplate : config.template t cwd with
  | error fault =>
      rw [rendered_of_template_error htemplate] at h
      cases h
  | ok template =>
      rw [rendered_of_template htemplate] at h
      exact ⟨template, rfl, h⟩

theorem unsettled_of_template (h : config.template t cwd = .error fault) :
    config.Unsettled t cwd fault := by
  unfold Config.template at h
  cases hpath : config.templatePath with
  | none =>
      rw [hpath] at h
      cases h
  | some path =>
      rw [hpath] at h
      dsimp only at h
      unfold readTemplate at h
      cases hread : t.readBytes cwd path with
      | error kind =>
          rw [hread] at h
          cases h
          exact .unreadable hpath hread
      | ok bytes =>
          rw [hread] at h
          dsimp only at h
          cases htext : Utf8.strict? bytes with
          | some text =>
              rw [htext] at h
              cases h
          | none =>
              rw [htext] at h
              cases h
              exact .notText hpath hread htext

theorem unsettled_of_render (htemplate : config.template t cwd = .ok template)
    (h : Template.render template config.rasterPath config.cacheBase = .error fault) :
    config.Unsettled t cwd fault := by
  unfold Template.render at h
  cases hraster : Template.holds template Template.rasterToken with
  | false =>
      rw [hraster] at h
      cases h
      exact .noRaster htemplate hraster
  | true =>
      cases hcache : Template.holds template Template.cacheToken with
      | false =>
          rw [hraster, hcache] at h
          cases h
          exact .noCache htemplate hraster hcache
      | true =>
          rw [hraster, hcache] at h
          cases h

theorem Unsettled.rendered_eq (h : config.Unsettled t cwd fault) :
    config.rendered t cwd = .error fault := by
  cases h with
  | unreadable hpath hread =>
      apply rendered_of_template_error
      unfold Config.template readTemplate
      rw [hpath]
      dsimp only
      rw [hread]
  | notText hpath hread htext =>
      apply rendered_of_template_error
      unfold Config.template readTemplate
      rw [hpath]
      dsimp only
      rw [hread]
      dsimp only
      rw [htext]
  | noRaster htemplate hraster =>
      rw [rendered_of_template htemplate]
      unfold Template.render
      rw [hraster]
      rfl
  | noCache htemplate hraster hcache =>
      rw [rendered_of_template htemplate]
      unfold Template.render
      rw [hraster, hcache]
      rfl

theorem rendered_eq_error_iff :
    config.rendered t cwd = .error fault ↔ config.Unsettled t cwd fault := by
  constructor
  · intro h
    cases htemplate : config.template t cwd with
    | error found =>
        rw [rendered_of_template_error htemplate] at h
        cases h
        exact unsettled_of_template htemplate
    | ok template =>
        rw [rendered_of_template htemplate] at h
        exact unsettled_of_render htemplate h
  · exact Unsettled.rendered_eq

end

/-- The ways in which writing a configuration ends, with what is left. -/
inductive WriteEnds (config : Config) (w : World) : Except Fault String × World → Prop where
  | unsettled {fault : ConfigFault} : config.rendered w.tree w.cwd = .error fault →
      WriteEnds config w (.error (.config fault), w)
  | noDirectory {text : String} {made : FileTree} {kind : IoKind} :
      config.rendered w.tree w.cwd = .ok text →
      w.tree.makeParents w.cwd config.configPath = (made, .error kind) →
      WriteEnds config w (.error (Fault.ofIo kind), { w with tree := made })
  | noFile {text : String} {made : FileTree} {kind : IoKind} :
      config.rendered w.tree w.cwd = .ok text →
      w.tree.makeParents w.cwd config.configPath = (made, .ok ()) →
      made.writeContent w.cwd config.configPath (.bytes text.toUTF8) = .error kind →
      WriteEnds config w (.error (Fault.ofIo kind), { w with tree := made })
  | written {text : String} {made tree : FileTree} :
      config.rendered w.tree w.cwd = .ok text →
      w.tree.makeParents w.cwd config.configPath = (made, .ok ()) →
      made.writeContent w.cwd config.configPath (.bytes text.toUTF8) = .ok tree →
      WriteEnds config w
        (.ok config.configPath, ⟨tree, w.cwd, w.events ++ [.wroteConfig config.configPath]⟩)

theorem writeEnds_run (config : Config) (w : World) :
    config.WriteEnds w (Effect.run config.write w) := by
  unfold write
  rw [Effect.run_bind_of_ok (Effect.run_inspect _ _)]
  cases htext : config.rendered w.tree w.cwd with
  | error fault => exact .unsettled htext
  | ok text =>
      dsimp only
      rcases hparents : w.tree.makeParents w.cwd config.configPath with ⟨made, outcome⟩
      have hmake := Effect.run_makeParents config.configPath w
      rw [hparents] at hmake
      cases outcome with
      | error kind =>
          rw [Effect.run_bind_of_error hmake]
          exact .noDirectory htext hparents
      | ok done =>
          rw [Effect.run_bind_of_ok hmake]
          cases hwrite : made.writeContent w.cwd config.configPath (.bytes text.toUTF8) with
          | error kind =>
              rw [Effect.run_bind_of_error
                (Effect.run_writeBytes_of_error (w := { w with tree := made }) hwrite)]
              exact .noFile htext hparents hwrite
          | ok tree =>
              rw [Effect.run_bind_of_ok
                  (Effect.run_writeBytes_of_ok (w := { w with tree := made }) hwrite),
                Effect.run_bind_of_ok (Effect.run_tell _ _), Effect.run_pure]
              exact .written htext hparents hwrite

section

variable {config : Config} {w w' : World} {fault : ConfigFault} {path : String} {kind : IoKind}
  {reason : String}

theorem run_write_eq_config_iff :
    Effect.run config.write w = (.error (.config fault), w') ↔
      config.Unsettled w.tree w.cwd fault ∧ w' = w := by
  have hends := writeEnds_run config w
  constructor
  · intro h
    rw [h] at hends
    cases hends with
    | unsettled htext => exact ⟨rendered_eq_error_iff.mp htext, rfl⟩
  · rintro ⟨hunsettled, rfl⟩
    have htext := hunsettled.rendered_eq
    generalize Effect.run config.write w' = ended at hends
    cases hends with
    | unsettled htext' =>
        rw [htext] at htext'
        cases htext'
        rfl
    | noDirectory htext' =>
        rw [htext] at htext'
        cases htext'
    | noFile htext' =>
        rw [htext] at htext'
        cases htext'
    | written htext' =>
        rw [htext] at htext'
        cases htext'

theorem changes_of_run_write_io (h : Effect.run config.write w = (.error (.io kind reason), w'))
    (other : Location) :
    w'.tree.entry? other = w.tree.entry? other ∨
      IsAbove w.cwd config.configPath other ∧ IsNewDirectory w.tree w'.tree other := by
  have hends := writeEnds_run config w
  have hchanges := makeParents_changes w.tree w.cwd config.configPath other
  rw [h] at hends
  cases hends with
  | noDirectory htext hparents =>
      rw [hparents] at hchanges
      exact hchanges
  | noFile htext hparents hwrite =>
      rw [hparents] at hchanges
      exact hchanges

/-- A configuration that was written: what its template gives, at its path. -/
structure IsWritten (config : Config) (before after : World) (template text : String)
    (loc : Location) : Prop where
  template_eq : config.template before.tree before.cwd = .ok template
  text_eq : Template.render template config.rasterPath config.cacheBase = .ok text
  place_eq : after.tree.locate after.cwd config.configPath = .ok loc
  content_eq : after.tree.readContent after.cwd config.configPath = .ok (.bytes text.toUTF8)
  others : ∀ other, other ≠ loc → after.tree.entry? other = before.tree.entry? other ∨
    IsAbove before.cwd config.configPath other ∧ IsNewDirectory before.tree after.tree other

theorem exists_isWritten (h : Effect.run config.write w = (.ok path, w')) :
    path = config.configPath ∧ w'.cwd = w.cwd ∧
      w'.events = w.events ++ [.wroteConfig config.configPath] ∧
      ∃ template text loc, config.IsWritten w w' template text loc := by
  have hends := writeEnds_run config w
  rw [h] at hends
  cases hends with
  | @written text made tree htext hparents hwrite =>
      rcases exists_template_of_rendered htext with ⟨template, htemplate, hrender⟩
      rcases exists_of_writeContent hwrite with
        ⟨dir, name, executable, hlocate, hdir, hfree, hwants, htree⟩
      refine ⟨rfl, rfl, rfl, template, text, dir ++ [name], htemplate, hrender, ?_,
        readContent_of_writeContent hwrite, ?_⟩
      · rw [htree]
        exact locate_of_directories_kept
          (fun l => @directories_kept_of_insert made dir _ name executable hfree l) hlocate
      · intro other hother
        have hchanges := makeParents_changes w.tree w.cwd config.configPath other
        rw [hparents] at hchanges
        have hkept : tree.entry? other = made.entry? other := by
          rw [htree]
          exact entry?_insert_of_ne made _ hother
        rcases hchanges with hsame | ⟨habove, hnone, hmade⟩
        · exact Or.inl (hkept.trans hsame)
        · exact Or.inr ⟨habove, hnone, hkept.trans hmade⟩

end

/-- Writing a configuration is refused because of its template exactly if the template cannot be
used, and then nothing has changed. Where it succeeds, the configuration is what the template gave
before anything was written, it is at its path in the work directory, and everything else is as it
was, but for directories above it that were missing. These are all that any other refusal leaves. A
file tree is taken for granted in which nothing is a symbolic or a hard link, so that no other path
leads to the configuration. -/
theorem write_atomic (config : Config) (w : World) :
    (∀ fault w', Effect.run config.write w = (.error (.config fault), w') ↔
      config.Unsettled w.tree w.cwd fault ∧ w' = w) ∧
    (∀ path w', Effect.run config.write w = (.ok path, w') →
      path = join config.workDir "mapcache.xml" ∧ path = config.configPath ∧ w'.cwd = w.cwd ∧
        ∃ template text loc, config.IsWritten w w' template text loc) ∧
    ∀ kind reason w', Effect.run config.write w = (.error (.io kind reason), w') →
      ∀ other, w'.tree.entry? other = w.tree.entry? other ∨
        IsAbove w.cwd config.configPath other ∧ IsNewDirectory w.tree w'.tree other := by
  refine ⟨fun fault w' => run_write_eq_config_iff, ?_, fun kind reason w' h other =>
    changes_of_run_write_io h other⟩
  intro path w' h
  rcases exists_isWritten h with ⟨hpath, hcwd, _, hwritten⟩
  exact ⟨hpath, hpath, hcwd, hwritten⟩

def ownTemplateTree : FileTree :=
  (FileTree.empty.insert ["run"] .directory).insert ["run", "mapcache.xml"]
    (.file (.bytes (Template.rasterToken ++ " " ++ Template.cacheToken).toUTF8) false)

def ownTemplateConfig : Config :=
  { Config.ofEnvironment [] with workDir := "/run", templatePath := some "/run/mapcache.xml" }

theorem write_atomic_own_template :
    ∃ w', Effect.run ownTemplateConfig.write ⟨ownTemplateTree, [], []⟩ =
        (.ok "/run/mapcache.xml", w') ∧
      w'.tree.readContent w'.cwd "/run/mapcache.xml" =
        .ok (.bytes "/run/synthetic_test_data.tif /run/cache_data".toUTF8) := by
  have hok : (Effect.run ownTemplateConfig.write ⟨ownTemplateTree, [], []⟩).1.isOk = true := by
    decide +kernel
  have htext : (ownTemplateConfig.rendered ownTemplateTree []).toOption =
      some "/run/synthetic_test_data.tif /run/cache_data" := by
    decide +kernel
  rcases hrun : Effect.run ownTemplateConfig.write ⟨ownTemplateTree, [], []⟩ with ⟨outcome, w'⟩
  rw [hrun] at hok
  cases outcome with
  | error fault => cases hok
  | ok path =>
      rcases (write_atomic ownTemplateConfig ⟨ownTemplateTree, [], []⟩).2.1 path w' hrun with
        ⟨_, hpath, _, template, text, loc, hwritten⟩
      have hplace : ownTemplateConfig.configPath = "/run/mapcache.xml" := by decide +kernel
      rw [rendered_of_template hwritten.template_eq, hwritten.text_eq] at htext
      cases htext
      have hcontent := hwritten.content_eq
      rw [hplace] at hpath hcontent
      rw [hpath]
      exact ⟨w', rfl, hcontent⟩

end Config
end TileAudit
