import TileAudit.Command.Run
import TileAudit.Image.File
import TileAudit.Process
import TileAudit.Proofs.Database.Tables
import TileAudit.Proofs.Scenario.AllOrNothing
import TileAudit.Proofs.Scenario.Progress
import TileAudit.Proofs.Workspace.Settled

/-!
# What a run leaves behind

A run makes a workspace, fills it, has it seeded, checks it, and removes it. However it ends, no
trace of it is left, if the path of the workspace settles or is blocked and the seeder stays within
the workspace. The empty path does neither, and a run by it leaves its mark behind.
-/

namespace TileAudit

open FileTree PathText Effect

/-!
## Scenarios that come and go

A scenario that cannot be prepared leaves no trace. One that is prepared leaves none either when all
that is done in it stays in its workspace. By the empty path the workspace is made of the working
directory, and its mark stays there.
-/

namespace Scenario

section

variable [TiffCodec] {config : Config} {place : Location} {w : World}

theorem prepare_settled (hpath : config.workDir.isEmpty = false)
    (h : Settles w.tree place (startOf w.cwd config.workDir) (names config.workDir)) :
    (∃ fault last, Effect.run (prepare config) w = (.error fault, last) ∧
      Workspace.Traceless w.tree last.tree place) ∨
    ∃ claimed filled, Effect.run (prepare config) w =
        (.ok ⟨config, config.configPath, ⟨config.workDir⟩⟩, filled) ∧
      Workspace.Made w claimed config.workDir place ∧ filled.cwd = w.cwd ∧
      SameAround place claimed.tree filled.tree := by
  rcases Workspace.create_settled hpath h with
    ⟨outcome, claimed, hcreate, ⟨fault, rfl, htraceless⟩ | ⟨rfl, hmade⟩⟩
  · exact Or.inl ⟨fault, claimed, run_prepare_of_refused hcreate, htraceless⟩
  · have huse := hmade.inUse (SameAround.refl place claimed.tree)
    have hleads : Leads claimed.tree claimed.cwd config.workDir place := by
      rw [hmade.cwd]
      exact (Workspace.settles_of_inUse huse h).leads huse.directory
    have hfree := unfilled_of_claimed hmade.claimed
    rcases hfill : Effect.run (fill config) claimed with ⟨result, filled⟩
    rcases sameAround_of_run_fill hleads hfree hfill with ⟨hcwd, haround⟩
    rw [hmade.cwd] at hcwd
    cases result with
    | error fault =>
        rcases Workspace.remove_made hpath h hmade hcwd haround with ⟨last, hremove, htraceless⟩
        exact Or.inl ⟨fault, last, run_prepare_of_failed hcreate hfill hremove, htraceless⟩
    | ok configFile =>
        rw [eq_configPath_of_run_fill hfill] at hfill
        exact Or.inr ⟨claimed, filled, run_prepare_of_filled hcreate hfill, hmade, hcwd, haround⟩

theorem traceless_of_ended {α : Type} {audit : Scenario → Effect α}
    (hpath : config.workDir.isEmpty = false)
    (h : Settles w.tree place (startOf w.cwd config.workDir) (names config.workDir))
    (haudit : ∀ claimed, Workspace.Made w claimed config.workDir place →
      Keeps (fun t cwd => cwd = w.cwd ∧ SameAround place claimed.tree t)
        (audit ⟨config, config.configPath, ⟨config.workDir⟩⟩)) :
    Workspace.Traceless w.tree
      (Effect.run (do
        let scenario ← prepare config
        thenAlways (audit scenario) scenario.finish) w).2.tree place := by
  rcases prepare_settled hpath h with
    ⟨fault, last, hprepare, htraceless⟩ | ⟨claimed, filled, hprepare, hmade, hcwd, haround⟩
  · rw [run_bind_of_error hprepare]
    exact htraceless
  · rw [run_bind_of_ok hprepare, run_thenAlways]
    rcases haudit claimed hmade filled ⟨hcwd, haround⟩ with ⟨hcwd', haround'⟩
    rcases Workspace.remove_made hpath h hmade hcwd' haround' with ⟨last, hremove, htraceless⟩
    rw [finish, hremove]
    exact htraceless

theorem entry?_of_run_fill {outcome : Except Fault String} {w' : World} {name : String}
    (h : Leads w.tree w.cwd config.workDir place) (hfree : Unfilled w.tree place)
    (hrun : Effect.run (fill config) w = (outcome, w')) (hcache : name ≠ "cache_data")
    (hraster : name ≠ "synthetic_test_data.tif") (hconfiguration : name ≠ "mapcache.xml") :
    w'.tree.entry? (place ++ [name]) = w.tree.entry? (place ++ [name]) := by
  rcases fill_cases h hfree with
    ⟨fault, _, hfill⟩ | ⟨file, _, ⟨fault, _, hfill⟩ | ⟨text, _, hfill⟩⟩
  · cases hrun.symm.trans hfill
    rw [entry?_withRaster_of_ne _ _ hraster, entry?_withCache_of_ne _ hcache]
  · cases hrun.symm.trans hfill
    exact entry?_withSource_of_ne _ file hcache hraster
  · cases hrun.symm.trans hfill
    rw [entry?_withConfiguration_of_ne _ text hconfiguration]
    exact entry?_withSource_of_ne _ file hcache hraster

theorem prepare_empty_path (hpath : config.workDir = "")
    (hcwd : w.tree.entry? w.cwd = some .directory) (hunfilled : Unfilled w.tree w.cwd)
    (hfree : w.tree.entry? (w.cwd ++ [workspaceMarker]) ≠ some .directory) :
    ∃ outcome last, Effect.run (prepare config) w = (outcome, last) ∧
      last.tree.entry? (w.cwd ++ [workspaceMarker]) ≠ none ∧
      ∀ scenario, outcome = .ok scenario →
        scenario = ⟨config, config.configPath, ⟨config.workDir⟩⟩ := by
  rcases Workspace.create_empty_path hpath hcwd hfree with ⟨executable, hcreate⟩
  let claimed : World := { w with
    tree := w.tree.insert (w.cwd ++ [workspaceMarker]) (.file (.bytes ByteArray.empty) executable) }
  have hmark : claimed.tree.entry? (w.cwd ++ [workspaceMarker]) ≠ none := by
    rw [entry?_insert_self w.tree (fits_file w.tree hcwd hfree)]
    simp
  have hleads : Leads claimed.tree claimed.cwd config.workDir w.cwd := by
    have hhere : Leads w.tree w.cwd "" w.cwd := ⟨rfl, hcwd⟩
    rw [hpath]
    exact hhere.of_inserted hfree
  have hother : ∀ name, name ≠ workspaceMarker →
      claimed.tree.entry? (w.cwd ++ [name]) = w.tree.entry? (w.cwd ++ [name]) :=
    fun _ hname => entry?_insert_sibling w.tree _ hname
  have hclaimed : Unfilled claimed.tree w.cwd :=
    ⟨(hother _ (by decide)).trans hunfilled.cache, (hother _ (by decide)).trans hunfilled.raster,
      (hother _ (by decide)).trans hunfilled.configuration⟩
  rcases hfill : Effect.run (fill config) claimed with ⟨result, filled⟩
  have hkept : filled.tree.entry? (w.cwd ++ [workspaceMarker]) ≠ none := by
    rw [entry?_of_run_fill hleads hclaimed hfill (by decide) (by decide) (by decide)]
    exact hmark
  cases result with
  | error fault =>
      have hremove := Workspace.remove_empty_path hpath filled
      exact ⟨_, filled, run_prepare_of_failed hcreate hfill hremove, hkept, by simp⟩
  | ok configFile =>
      have hfile := eq_configPath_of_run_fill hfill
      refine ⟨_, filled, run_prepare_of_filled hcreate hfill, hkept, ?_⟩
      intro scenario hscenario
      cases hscenario
      rw [hfile]

end

end Scenario

/-!
## Audits

An audit prepares a scenario, fills and checks its stores, and ends it. It leaves no trace by any
seeder that changes nothing but what is strictly below the workspace.
-/

namespace CommandLine

/-- A step that changes nothing but what is strictly below a workspace in use. -/
def StaysWithin {α : Type} (step : Effect α) (before : FileTree) (cwd place : Location) : Prop :=
  ∀ v : World, v.cwd = cwd → Workspace.InUse before v.tree place →
    SameAround place v.tree (Effect.run step v).2.tree

def seederOf (config : Config) : SeedingProgram :=
  { program := config.seeder, timeoutMillis := config.seedTimeoutMillis }

theorem StaysWithin.keeps {α : Type} {step : Effect α} {config : Config} {place : Location}
    {w claimed : World} (hseed : StaysWithin step w.tree w.cwd place)
    (hcwd : Keeps (fun _ here => here = w.cwd) step)
    (hmade : Workspace.Made w claimed config.workDir place) :
    Keeps (fun t here => here = w.cwd ∧ SameAround place claimed.tree t) step := by
  intro v hv
  exact ⟨hcwd v hv.1, hv.2.trans (hseed v hv.1 (hmade.inUse hv.2))⟩

section

variable {property : FileTree → Location → Prop}

theorem keeps_seedAndCheck [TiffCodec] [ImageCodec] [DatabaseEngine] (scenario : Scenario)
    {seeder : Seeder} {backends : List Backend}
    (hseed : ∀ kind ∈ backends,
      Keeps property (seeder scenario.configFile kind.defaultTileset scenario.config.zoomLevels))
    (tiles : List TileAddress) : Keeps property (seedAndCheck scenario seeder tiles backends) := by
  induction backends with
  | nil => exact keeps_pure _
  | cons kind rest ih =>
      have hfirst : Keeps property (scenario.seed seeder kind) :=
        Keeps.bind (keeps_tell _) fun _ => hseed kind List.mem_cons_self
      have hrest := ih fun other hother => hseed other (List.mem_cons_of_mem _ hother)
      unfold seedAndCheck
      refine Keeps.bind hfirst fun _ => ?_
      refine Keeps.bind ((scenario.reads_verifyTiles _ tiles).keeps property) fun results => ?_
      refine Keeps.bind hrest fun others => ?_
      exact keeps_pure _

theorem reads_report (results : List Checked) : Reads [] (report results) := by
  unfold report
  by_cases hmatch : (results.filter fun c => !c.comparison.matched).length = 0
  · simp only [hmatch, if_true]
    exact (reads_tell rfl).silent_bind fun _ => reads_pure _
  · simp only [hmatch, if_false]
    exact (reads_tell rfl).silent_bind fun _ => reads_pure _

theorem keeps_report (results : List Checked) : Keeps property (report results) :=
  (reads_report results).keeps property

end

section

variable [TiffCodec] [ImageCodec] [DatabaseEngine]

/-- A run by any settings and any seeder. -/
def audit (config : Config) (seeder : Seeder) (tiles : List TileAddress) (backends : List Backend) :
    Effect Outcome := do
  let scenario ← Scenario.prepare config
  Effect.thenAlways
    (do
      let results ← seedAndCheck scenario seeder tiles backends
      report results)
    scenario.finish

variable {config : Config} {seeder : Seeder} {tiles : List TileAddress} {backends : List Backend}
  {place : Location} {w : World}

theorem traceless_audit (hpath : config.workDir.isEmpty = false)
    (hway : Settles w.tree place (startOf w.cwd config.workDir) (names config.workDir) ∨
      IsBlocked w.tree (startOf w.cwd config.workDir) (names config.workDir))
    (hseed : ∀ kind ∈ backends, StaysWithin
      (seeder config.configPath kind.defaultTileset config.zoomLevels) w.tree w.cwd place)
    (hcwd : ∀ kind ∈ backends, Keeps (fun _ here => here = w.cwd)
      (seeder config.configPath kind.defaultTileset config.zoomLevels)) :
    Workspace.Traceless w.tree (Effect.run (audit config seeder tiles backends) w).2.tree place := by
  rcases hway with hsettles | hblocked
  · apply Scenario.traceless_of_ended hpath hsettles
    intro claimed hmade
    have hchecked := keeps_seedAndCheck ⟨config, config.configPath, ⟨config.workDir⟩⟩
      (fun kind hkind => (hseed kind hkind).keeps (hcwd kind hkind) hmade) tiles
    refine Keeps.bind hchecked fun results => ?_
    exact keeps_report results
  · rcases Workspace.create_blocked hpath hblocked with ⟨fault, hcreate⟩
    unfold audit
    rw [run_bind_of_error (Scenario.run_prepare_of_refused hcreate)]
    exact Workspace.Traceless.refl w.tree place

end

/-!
## Runs

A run is an audit by a program. A program that is started leaves the working directory of its caller
as it was, whatever it does to the file tree.
-/

theorem world_plainly {α : Type} (step : Effect α) (w : World) :
    (plainly step w).2 = (Effect.run step w).2 := by
  unfold plainly diagnosed Effect.run
  rcases step w with ⟨outcome, last⟩
  cases outcome with
  | ok a => rfl
  | error fault => rfl

section

variable [TiffCodec] [ImageCodec] [DatabaseEngine] [Launcher] {env : Environment}
  {request : RunRequest} {config : Config} {place : Location} {w w' : World}
  {outcome : Except Diagnosis Outcome}

theorem run_eq_audit (env : Environment) (request : RunRequest) :
    run env request = plainly
      (audit (request.config env) (seederOf (request.config env)).seed request.tiles
        request.backends) := rfl

theorem world_of_run (hconfig : request.config env = config)
    (hrun : run env request w = (outcome, w')) :
    w' = (Effect.run (audit config (seederOf config).seed request.tiles request.backends) w).2 := by
  rw [← world_plainly, ← hconfig, ← run_eq_audit, hrun]

/-- However a run ends, it leaves no trace, if the path of its workspace goes up only from
directories that are there, outside the workspace, or runs into a file, and the seeder stays within
the workspace. What was there before is there still, but for what a free place had in it; what is
there now was there before, but for directories above the workspace. The seeder may be a program or
any other that stays in its working directory. -/
theorem run_leaves_no_trace (hconfig : request.config env = config)
    (hpath : config.workDir.isEmpty = false)
    (hway : Settles w.tree place (startOf w.cwd config.workDir) (names config.workDir) ∨
      IsBlocked w.tree (startOf w.cwd config.workDir) (names config.workDir)) :
    (∀ (seeder : Seeder) (tiles : List TileAddress) (backends : List Backend),
      (∀ kind ∈ backends,
        StaysWithin (seeder config.configPath kind.defaultTileset config.zoomLevels) w.tree w.cwd
            place ∧
          ∀ v : World, v.cwd = w.cwd → (Effect.run
            (seeder config.configPath kind.defaultTileset config.zoomLevels) v).2.cwd = w.cwd) →
        Workspace.Traceless w.tree (Effect.run (audit config seeder tiles backends) w).2.tree
          place) ∧
    ((∀ kind ∈ request.backends, StaysWithin ((seederOf config).seed config.configPath
        kind.defaultTileset config.zoomLevels) w.tree w.cwd place) →
      run env request w = (outcome, w') → Workspace.Traceless w.tree w'.tree place) := by
  constructor
  · intro seeder tiles backends hseed
    exact traceless_audit hpath hway (fun kind hkind => (hseed kind hkind).1)
      fun kind hkind => (hseed kind hkind).2
  · intro hseed hrun
    rw [world_of_run hconfig hrun]
    exact traceless_audit hpath hway hseed
      fun kind _ => SeedingProgram.keeps_seed (Invocation.keeps_cwd _ w.cwd)

end

theorem launch_of_system {inv : Invocation} {program : Process.Program}
    (hfind : ∀ tree cwd, Process.find tree cwd inv.program = .ok program)
    (hsystem : program = .succeed ∨ program = .fail ∨ program = .echo) (tree : FileTree)
    (cwd : Location) : (Process.launch inv tree cwd).1 = tree := by
  have htree : (Process.runFound tree cwd program inv).1 = tree := by
    unfold Process.runFound
    by_cases hlimit : inv.timeoutMillis = 0
    · rw [if_pos hlimit]
    · rw [if_neg hlimit]
      rcases hsystem with rfl | rfl | rfl <;> rfl
  unfold Process.launch
  rw [hfind]
  exact htree

theorem staysWithin_of_system {config : Config} {program : Process.Program}
    (hfind : ∀ tree cwd, Process.find tree cwd config.seeder = .ok program)
    (hsystem : program = .succeed ∨ program = .fail ∨ program = .echo) (configFile tileset : String)
    (zooms : List UInt32) (before : FileTree) (cwd place : Location) :
    StaysWithin ((seederOf config).seed configFile tileset zooms) before cwd place := by
  intro v _ _
  have hlaunch : Keeps (fun t _ => t = v.tree)
      ((seederOf config).invocation configFile tileset zooms).run :=
    fun w hw => (launch_of_system hfind hsystem w.tree w.cwd).trans hw
  have hkeeps : Keeps (fun t _ => t = v.tree) ((seederOf config).seed configFile tileset zooms) :=
    SeedingProgram.keeps_seed hlaunch
  rw [hkeeps v rfl]
  exact SameAround.refl place v.tree

def failingRequest : RunRequest :=
  ⟨none, some "false", none, [.disk], [⟨0, 0, 0⟩]⟩

theorem run_leaves_no_trace_usedWorkspace :
    Settles Workspace.usedWorkspace ["run"] [] [".", "run"] ∧
      ∃ outcome w', run [("TILECHECK_WORK_DIR", "./run")] failingRequest
          ⟨Workspace.usedWorkspace, [], []⟩ = (outcome, w') ∧
        Workspace.Traceless Workspace.usedWorkspace w'.tree ["run"] := by
  have hsettles : Settles Workspace.usedWorkspace ["run"] [] [".", "run"] :=
    .down rfl (by decide) rfl
  rcases hrun : run [("TILECHECK_WORK_DIR", "./run")] failingRequest
    ⟨Workspace.usedWorkspace, [], []⟩ with ⟨outcome, w'⟩
  refine ⟨hsettles, outcome, w', rfl, ?_⟩
  apply (run_leaves_no_trace rfl (by decide) (Or.inl hsettles)).2 _ hrun
  intro kind _
  exact staysWithin_of_system (fun _ _ => rfl) (Or.inr (Or.inl rfl)) _ _ _ _ _ _

/-- A run by the empty path makes its workspace of the working directory, and leaves its mark there.
The path leads to the names in the workspace, but the workspace itself is not found when it is to be
removed. -/
theorem run_empty_path [TiffCodec] [ImageCodec] [DatabaseEngine] [Launcher] {env : Environment}
    {request : RunRequest} {config : Config} {w w' : World} {outcome : Except Diagnosis Outcome}
    (hconfig : request.config env = config) (hpath : config.workDir = "")
    (hcwd : w.tree.entry? w.cwd = some .directory) (hunfilled : Scenario.Unfilled w.tree w.cwd)
    (hfree : w.tree.entry? (w.cwd ++ [workspaceMarker]) ≠ some .directory)
    (hseed : ∀ kind ∈ request.backends,
      Keeps (fun t _ => t.entry? (w.cwd ++ [workspaceMarker]) ≠ none)
        ((seederOf config).seed config.configPath kind.defaultTileset config.zoomLevels))
    (hrun : run env request w = (outcome, w')) :
    w'.tree.entry? (w.cwd ++ [workspaceMarker]) ≠ none := by
  rw [world_of_run hconfig hrun, audit]
  rcases Scenario.prepare_empty_path hpath hcwd hunfilled hfree with
    ⟨prepared, middle, hprepare, hmark, hscenario⟩
  cases prepared with
  | error fault =>
      rw [run_bind_of_error hprepare]
      exact hmark
  | ok scenario =>
      rw [run_bind_of_ok hprepare, run_thenAlways, hscenario scenario rfl, Scenario.finish,
        Workspace.remove_empty_path hpath]
      have hchecked := keeps_seedAndCheck ⟨config, config.configPath, ⟨config.workDir⟩⟩ hseed
        request.tiles
      exact Keeps.bind hchecked keeps_report middle hmark

end CommandLine
end TileAudit
