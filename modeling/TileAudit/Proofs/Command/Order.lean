import TileAudit.Proofs.Command.Calls
import TileAudit.Proofs.Command.ZoomLevels
import TileAudit.Proofs.Store.Reading

/-!
# The order of a run

A run seeds the stores in the order they are listed, and checks the tiles of each store before the
next is seeded. The first call that fails is the last that is made.
-/

namespace TileAudit
namespace CommandLine

section

variable [TiffCodec] [ImageCodec] [DatabaseEngine]

/-- How a run goes, from a world to an outcome and a world. -/
inductive Course (config : Config) (seeder : Seeder) (tiles : List TileAddress)
    (backends : List Backend) (w : World) : Except Fault Outcome × World → Prop where
  /-- There is no scenario, and no call is made. -/
  | refused {fault : Fault} {last : World} :
      Effect.run (Scenario.prepare config) w = (.error fault, last) →
        Course config seeder tiles backends w (.error fault, last)
  /-- A call fails, and its fault is that of the run. No call is made after it. -/
  | stopped {scenario : Scenario} {prepared last : World} {done : List (Call × Option Checked)}
      {call : Call} {fault : Fault} :
      Effect.run (Scenario.prepare config) w = (.ok scenario, prepared) →
      Effect.Stops (Call.perform scenario seeder) prepared
        (Call.agenda config.configPath config.zoomLevels tiles backends) done call fault last →
      Call.InOrder config.configPath config.zoomLevels tiles backends
        (done.map Prod.fst ++ [call]) →
        Course config seeder tiles backends w (.error fault, (Effect.run scenario.finish last).2)
  /-- All calls end well, and what they have found is told. -/
  | completed {scenario : Scenario} {prepared last : World} {done : List (Call × Option Checked)}
      {outcome : Except Fault Outcome} {told : World} :
      Effect.run (Scenario.prepare config) w = (.ok scenario, prepared) →
      Effect.Completes (Call.perform scenario seeder) prepared
        (Call.agenda config.configPath config.zoomLevels tiles backends) done last →
      Call.InOrder config.configPath config.zoomLevels tiles backends (done.map Prod.fst) →
      Effect.run (report (done.map Prod.snd).reduceOption) last = (outcome, told) →
        Course config seeder tiles backends w (outcome, (Effect.run scenario.finish told).2)

theorem course_of_audit (config : Config) (seeder : Seeder) (tiles : List TileAddress)
    (backends : List Backend) (w : World) :
    Course config seeder tiles backends w
      (Effect.run (audit config seeder tiles backends) w) := by
  rcases audit_cases config seeder tiles backends w with
    ⟨fault, last, hrefused⟩ | ⟨scenario, prepared, hprepare, hcalls⟩
  · rw [run_audit_of_refused hrefused]
    exact .refused hrefused
  · rcases hcalls with ⟨done, last, hcompletes⟩ | ⟨done, call, fault, last, hstops⟩
    · rw [run_audit_of_completes hprepare hcompletes]
      exact .completed hprepare hcompletes (Call.inOrder_of_isPrefix hcompletes.isPrefix) rfl
    · rw [run_audit_of_stops hprepare hstops]
      exact .stopped hprepare hstops (Call.inOrder_of_isPrefix hstops.isPrefix)

end

/-!
## What a run tells

The events tell the same order, if the seeder tells none of seeding and reading itself.
-/

def progressOf (tiles : List TileAddress) (backends : List Backend) : List Event :=
  backends.flatMap fun kind =>
    .seeding kind :: tiles.flatMap fun tile => [.verifying kind tile, .readingTile kind tile]

section

variable [TiffCodec] [ImageCodec] [DatabaseEngine] {seeder : Seeder}
  (hseeder : ∀ configFile tileset zooms, Effect.TellsUpTo [] (seeder configFile tileset zooms))

include hseeder

theorem tellsUpTo_seedAndCheck (scenario : Scenario) (tiles : List TileAddress)
    (backends : List Backend) :
    Effect.TellsUpTo (progressOf tiles backends) (seedAndCheck scenario seeder tiles backends) := by
  induction backends with
  | nil => exact Effect.silent_pure _
  | cons kind rest ih =>
      have hseed : Effect.TellsUpTo [.seeding kind] (scenario.seed seeder kind) := by
        unfold Scenario.seed
        exact (Effect.tellsUpTo_tell rfl).bind_silent fun _ => hseeder _ _ _
      have hchecks := (scenario.reads_verifyTiles (scenario.store kind) tiles).tells
      have hbackend : (scenario.store kind).backend = kind := Store.backend_ofBackend _ _ _ _
      rw [hbackend] at hchecks
      unfold seedAndCheck
      refine hseed.bind fun _ => ?_
      refine hchecks.bind fun results => ?_
      exact ih.bind_silent fun others => Effect.silent_pure _

theorem tellsUpTo_audit (config : Config) (tiles : List TileAddress) (backends : List Backend) :
    Effect.TellsUpTo (progressOf tiles backends) (audit config seeder tiles backends) := by
  unfold audit
  refine (Scenario.silent_prepare config).silent_bind fun scenario => ?_
  apply Effect.TellsUpTo.thenAlways
  · refine (tellsUpTo_seedAndCheck hseeder scenario tiles backends).bind_silent fun results => ?_
    exact (reads_report results).tells
  · exact scenario.workspace.silent_remove

end

section

variable [TiffCodec] [ImageCodec] [DatabaseEngine] [Launcher] {env : Environment}
  {request : RunRequest} {config : Config}

/-- A run calls its seeder for the listed kinds of store in turn, each time with the one
configuration file, the usual tileset of the kind and the zoom levels of the requested tiles, in
rising order and each once; the argument that names them is read back as them. A call of the seeder
starts one program with these arguments, and ends well when the program does; a check reads its tile
from its store, on the tree as it was seeded. Whatever the seeder does, the tiles of a kind are
checked in the requested order after the kind was seeded and before the next is, and the first call
that fails is the last one, and tells the fault of the run. The events say the same, for a seeder
that tells none of seeding and reading, as the program does. -/
theorem run_in_order (hconfig : request.config env = config) (htiles : request.tiles ≠ []) :
    run env request =
        plainly (audit config (seederOf config).seed request.tiles request.backends) ∧
    config.zoomLevels.Pairwise (· < ·) ∧
    (∀ zoom, zoom ∈ config.zoomLevels ↔ ∃ tile ∈ request.tiles, tile.zoom = zoom) ∧
    (∀ configFile tileset,
      ((seederOf config).invocation configFile tileset config.zoomLevels).arguments =
        ["-c", configFile, "-t", tileset, "--force", "-z",
          SeedingProgram.zoomArgument config.zoomLevels]) ∧
    (∀ (configFile tileset : String) (w : World),
      (Effect.run ((seederOf config).seed configFile tileset config.zoomLevels) w).2.tree =
          (Launcher.launch ((seederOf config).invocation configFile tileset config.zoomLevels)
            w.tree w.cwd).1 ∧
        ((∃ output, (Effect.run ((seederOf config).seed configFile tileset config.zoomLevels) w).1 =
            .ok output) ↔
          ∃ finished,
            (Launcher.launch ((seederOf config).invocation configFile tileset config.zoomLevels)
              w.tree w.cwd).2 = .ok (some finished) ∧ finished.status.isSuccess = true)) ∧
    (∀ (scenario : Scenario) (seeder : Seeder) (kind : Backend) (tile : TileAddress) (w : World),
      (Effect.run (Call.perform scenario seeder (.check kind tile)) w).1 =
        (scenario.verdict (scenario.store kind) w tile).map fun comparison =>
          some ⟨kind, tile, comparison⟩) ∧
    ((SeedingProgram.zoomArgument config.zoomLevels).toList.splitOn ',').mapM
        TileAddress.readPart = .ok config.zoomLevels ∧
    (∀ (seeder : Seeder) (w : World),
      Course config seeder request.tiles request.backends w
        (Effect.run (audit config seeder request.tiles request.backends) w)) ∧
    (∀ seeder : Seeder,
      (∀ configFile tileset zooms, Effect.TellsUpTo [] (seeder configFile tileset zooms)) →
        Effect.TellsUpTo (progressOf request.tiles request.backends)
          (audit config seeder request.tiles request.backends)) ∧
    ∀ configFile tileset zooms,
      Effect.TellsUpTo [] ((seederOf config).seed configFile tileset zooms) := by
  subst hconfig
  refine ⟨run_eq_audit env request, pairwise_zoomLevels request.tiles, fun zoom => mem_zoomLevels,
    fun configFile tileset => rfl, ?_, ?_, ?_, ?_, ?_, SeedingProgram.silent_seed _⟩
  · intro configFile tileset w
    exact SeedingProgram.run_seed _ configFile tileset _ w
  · intro scenario seeder kind tile w
    exact Call.outcome_check scenario seeder kind tile w
  · exact SeedingProgram.mapM_readPart_zoomArgument (zoomLevels_ne_nil htiles)
  · intro seeder w
    exact course_of_audit _ seeder _ _ w
  · intro seeder hseeder
    exact tellsUpTo_audit hseeder _ _ _

end

def mixedRequest : RunRequest :=
  ⟨none, none, none, [.disk, .disk], [⟨3, 0, 0⟩, ⟨1, 0, 0⟩, ⟨3, 1, 0⟩]⟩

theorem run_in_order_mixedRequest :
    (mixedRequest.config []).zoomLevels = [1, 3] ∧
    (SeedingProgram.zoomArgument [1, 3]).toList = ['1', ',', '3'] ∧
    ((SeedingProgram.zoomArgument [1, 3]).toList.splitOn ',').mapM TileAddress.readPart =
      .ok [1, 3] ∧
    (∀ (seeder : Seeder) (w : World),
      Course (mixedRequest.config []) seeder mixedRequest.tiles mixedRequest.backends w
        (Effect.run (audit (mixedRequest.config []) seeder mixedRequest.tiles
          mixedRequest.backends) w)) ∧
    Effect.TellsUpTo
      [.seeding .disk,
        .verifying .disk ⟨3, 0, 0⟩, .readingTile .disk ⟨3, 0, 0⟩,
        .verifying .disk ⟨1, 0, 0⟩, .readingTile .disk ⟨1, 0, 0⟩,
        .verifying .disk ⟨3, 1, 0⟩, .readingTile .disk ⟨3, 1, 0⟩,
        .seeding .disk,
        .verifying .disk ⟨3, 0, 0⟩, .readingTile .disk ⟨3, 0, 0⟩,
        .verifying .disk ⟨1, 0, 0⟩, .readingTile .disk ⟨1, 0, 0⟩,
        .verifying .disk ⟨3, 1, 0⟩, .readingTile .disk ⟨3, 1, 0⟩]
      (audit (mixedRequest.config []) (seederOf (mixedRequest.config [])).seed mixedRequest.tiles
        mixedRequest.backends) := by
  have hzooms : (mixedRequest.config []).zoomLevels = [1, 3] := by
    show zoomLevels mixedRequest.tiles = [1, 3]
    cbv
  have hconfig : mixedRequest.config [] = mixedRequest.config [] := rfl
  have htiles : mixedRequest.tiles ≠ [] := by decide
  rcases run_in_order hconfig htiles with
    ⟨_, _, _, _, _, _, hargument, hcourse, htold, hsilent⟩
  rw [hzooms] at hargument
  exact ⟨hzooms, by decide +kernel, hargument, hcourse, htold _ hsilent⟩

end CommandLine
end TileAudit
