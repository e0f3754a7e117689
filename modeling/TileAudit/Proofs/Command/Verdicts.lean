import TileAudit.Proofs.Command.Residue
import TileAudit.Proofs.Scenario.Verdict

/-!
# Verdicts of a command

A command that checks tiles ends with success when every check was made and every tile matched. When
every check was made it prints a line for each, and when a step fails it prints none.
-/

namespace TileAudit

section

variable {α β ε : Type} {f : α → Except ε β}

theorem mapM_eq_ok_iff {xs : List α} {ys : List β} :
    xs.mapM f = .ok ys ↔ xs.map f = ys.map .ok := by
  induction xs generalizing ys with
  | nil =>
      rw [List.mapM_nil, List.map_nil, eq_comm (a := []), List.map_eq_nil_iff]
      constructor
      · intro h
        cases h
        rfl
      · rintro rfl
        rfl
  | cons x rest ih =>
      rw [List.mapM_cons, List.map_cons, eq_comm (a := f x :: _), List.map_eq_cons_iff]
      constructor
      · intro h
        cases hfirst : f x with
        | error e =>
            rw [hfirst] at h
            cases h
        | ok y =>
            cases hrest : rest.mapM f with
            | error e =>
                rw [hfirst, hrest] at h
                cases h
            | ok others =>
                rw [hfirst, hrest] at h
                cases h
                exact ⟨y, others, rfl, rfl, (ih.mp hrest).symm⟩
      · rintro ⟨y, others, rfl, hfirst, hrest⟩
        rw [← hfirst, ih.mpr hrest.symm]
        rfl

theorem map_mapM {γ : Type} (g : β → γ) (xs : List α) :
    (xs.mapM f).map (List.map g) = xs.mapM fun x => (f x).map g := by
  induction xs with
  | nil => rfl
  | cons x rest ih =>
      rw [List.mapM_cons, List.mapM_cons, ← ih]
      cases f x with
      | error e => rfl
      | ok y =>
          cases rest.mapM f with
          | error e => rfl
          | ok others => rfl

theorem exists_of_mapM_eq_error {xs : List α} {e : ε} (h : xs.mapM f = .error e) :
    ∃ x ∈ xs, f x = .error e := by
  induction xs with
  | nil => cases h
  | cons x rest ih =>
      rw [List.mapM_cons] at h
      cases hfirst : f x with
      | error e' =>
          rw [hfirst] at h
          cases h
          exact ⟨x, List.mem_cons_self, hfirst⟩
      | ok y =>
          cases hrest : rest.mapM f with
          | error e' =>
              rw [hfirst, hrest] at h
              cases h
              rcases ih hrest with ⟨x', hx', herror⟩
              exact ⟨x', List.mem_cons_of_mem x hx', herror⟩
          | ok others =>
              rw [hfirst, hrest] at h
              cases h

theorem exists_mapM_eq_error {xs : List α} {x : α} {e : ε} (hx : x ∈ xs) (h : f x = .error e) :
    ∃ e', xs.mapM f = .error e' := by
  cases hall : xs.mapM f with
  | error e' => exact ⟨e', rfl⟩
  | ok ys =>
      have hmem := List.mem_map_of_mem (f := f) hx
      rw [mapM_eq_ok_iff.mp hall, h] at hmem
      rcases List.mem_map.mp hmem with ⟨y, _, hy⟩
      cases hy

end

namespace CommandLine

/-!
## How a command ends

A command tells what it finds or breaks. The exit status and the printed lines follow from which of
the two it is, however the checks were made.
-/

/-- A command that checks pairs of a kind of store and a tile tells what it finds, unless it
breaks. -/
structure TellsVerdicts (completion : Completion) (pairs : List (Backend × TileAddress))
    (Finds : List Checked → Prop) (Breaks : Prop) : Prop where
  finds_or_breaks : (∃ found, Finds found) ∨ Breaks
  exit_eq_zero_iff :
    completion.exit = 0 ↔ ∃ found, Finds found ∧ ∀ c ∈ found, c.comparison.matched = true
  /-- A line is printed for each pair, in their order. -/
  of_finds : ∀ found, Finds found →
    found.map (fun c => (c.backend, c.tile)) = pairs ∧
      completion.stdout = found.map Checked.line
  of_breaks : Breaks → completion.exit ≠ 0 ∧ completion.stdout = []

def Reports (outcome : Except Diagnosis Outcome) (found : List Checked) : Prop :=
  ∃ failure, outcome = .ok ⟨found.map Checked.line, failure⟩ ∧
    (failure = none ↔ ∀ c ∈ found, c.comparison.matched = true)

theorem exit_completionOf_error_ne_zero (shown : Level) (diagnosis : Diagnosis) :
    (completionOf shown (.error diagnosis)).exit ≠ 0 := by
  show diagnosis.exitCode ≠ 0
  unfold Diagnosis.exitCode
  split
  · decide
  · decide

theorem tellsVerdicts_of {outcome : Except Diagnosis Outcome} {pairs : List (Backend × TileAddress)}
    {Finds : List Checked → Prop} {Breaks : Prop} (shown : Level)
    (hcases : (∃ found, Finds found) ∨ Breaks)
    (hfinds : ∀ found, Finds found →
      found.map (fun c => (c.backend, c.tile)) = pairs ∧ Reports outcome found)
    (hbreaks : Breaks → ∃ diagnosis, outcome = .error diagnosis) :
    TellsVerdicts (completionOf shown outcome) pairs Finds Breaks where
  finds_or_breaks := hcases
  exit_eq_zero_iff := by
    constructor
    · intro hexit
      rcases hcases with ⟨found, hfound⟩ | hbroken
      · rcases hfinds found hfound with ⟨_, failure, rfl, hfailure⟩
        cases failure with
        | none => exact ⟨found, hfound, hfailure.mp rfl⟩
        | some diagnosis => cases hexit
      · rcases hbreaks hbroken with ⟨diagnosis, rfl⟩
        exact absurd hexit (exit_completionOf_error_ne_zero shown diagnosis)
    · rintro ⟨found, hfound, hmatched⟩
      rcases hfinds found hfound with ⟨_, failure, rfl, hfailure⟩
      rw [hfailure.mpr hmatched]
      rfl
  of_finds := by
    intro found hfound
    rcases hfinds found hfound with ⟨hpairs, failure, rfl, _⟩
    refine ⟨hpairs, ?_⟩
    cases failure with
    | none => rfl
    | some diagnosis => rfl
  of_breaks := by
    intro hbroken
    rcases hbreaks hbroken with ⟨diagnosis, rfl⟩
    exact ⟨exit_completionOf_error_ne_zero shown diagnosis, rfl⟩

section

variable {α : Type} {step : Effect α} {w : World}

theorem outcome_plainly_of_ok {a : α} (h : (Effect.run step w).1 = .ok a) :
    (plainly step w).1 = .ok a := by
  unfold plainly diagnosed
  unfold Effect.run at h
  rcases hstep : step w with ⟨outcome, last⟩
  rw [hstep] at h
  cases h
  rfl

theorem outcome_plainly_of_error {fault : Fault} (h : (Effect.run step w).1 = .error fault) :
    (plainly step w).1 = .error (Diagnosis.ofFault fault) := by
  unfold plainly diagnosed
  unfold Effect.run at h
  rcases hstep : step w with ⟨outcome, last⟩
  rw [hstep] at h
  cases h
  rfl

end

theorem step_bind {α β : Type} (step : Step α) (next : α → Step β) (w : World) :
    (step >>= next) w =
      match step w with
      | (.ok a, w') => next a w'
      | (.error diagnosis, w') => (.error diagnosis, w') := by
  show (ExceptT.bind step next) w = _
  unfold ExceptT.bind ExceptT.mk
  show (StateT.bind step _) w = _
  unfold StateT.bind
  rcases step w with ⟨outcome, w'⟩
  cases outcome with
  | ok a => rfl
  | error diagnosis => rfl

theorem pairs_of_verdicts {kind : Backend} {tiles : List TileAddress}
    {verdict : TileAddress → Except Fault Comparison} {found : List Checked}
    (h : (tiles.map fun tile => (verdict tile).map fun comparison =>
      (⟨kind, tile, comparison⟩ : Checked)) = found.map .ok) :
    found.map (fun c => (c.backend, c.tile)) = tiles.map fun tile => (kind, tile) := by
  have hone : ∀ (tile : TileAddress) (c : Checked), ((verdict tile).map fun comparison =>
      (⟨kind, tile, comparison⟩ : Checked)) = .ok c → (kind, tile) = (c.backend, c.tile) := by
    intro tile c hverdict
    cases hcheck : verdict tile with
    | error fault =>
        rw [hcheck] at hverdict
        cases hverdict
    | ok comparison =>
        rw [hcheck] at hverdict
        cases hverdict
        rfl
  rw [← List.forall₂_eq_eq_eq, List.forall₂_map_left_iff, List.forall₂_map_right_iff] at h
  have hpairs := h.imp hone
  rw [eq_comm, ← List.forall₂_eq_eq_eq, List.forall₂_map_left_iff, List.forall₂_map_right_iff]
  exact hpairs

theorem run_seed {scenario : Scenario} {seeder : Seeder} {kind : Backend} {w seeded : World}
    {outcome : Except Fault SeedOutput}
    (h : Effect.run (seeder scenario.configFile kind.defaultTileset scenario.config.zoomLevels)
      { w with events := w.events ++ [.seeding kind] } = (outcome, seeded)) :
    Effect.run (scenario.seed seeder kind) w = (outcome, seeded) := by
  unfold Scenario.seed
  rw [Effect.run_bind_of_ok (Effect.run_tell _ w)]
  exact h

theorem exists_run_report (results : List Checked) (w : World) :
    ∃ failure told,
      Effect.run (report results) w = (.ok ⟨results.map Checked.line, failure⟩, told) ∧
      (failure = none ↔ ∀ c ∈ results, c.comparison.matched = true) := by
  have hcount : (results.filter fun c => !c.comparison.matched).length = 0 ↔
      ∀ c ∈ results, c.comparison.matched = true := by
    simp
  unfold report
  by_cases hmatched : (results.filter fun c => !c.comparison.matched).length = 0
  · simp only [hmatched, if_true]
    refine ⟨none, _, rfl, ?_⟩
    simpa using hcount.mp hmatched
  · simp only [hmatched, if_false]
    refine ⟨some _, _, rfl, ?_⟩
    rw [← hcount]
    simpa using hmatched

theorem line_eq (c : Checked) :
    c.line = (if c.comparison.matched then "OK  " else "FAIL") ++ " " ++
      (match c.backend with
      | .disk => "disk  "
      | .sqlite => "sqlite") ++ " " ++ c.tile.name ++ " (" ++
      toString c.comparison.mismatchCount ++ " differing samples)" := by
  have hstatus : padTo ' ' .left 4 (if c.comparison.matched then "OK" else "FAIL") =
      if c.comparison.matched then "OK  " else "FAIL" := by
    cases c.comparison.matched with
    | true => decide +kernel
    | false => decide +kernel
  have hkind : padTo ' ' .left 6 c.backend.name =
      match c.backend with
      | .disk => "disk  "
      | .sqlite => "sqlite" := by
    cases c.backend with
    | disk => decide +kernel
    | sqlite => decide +kernel
  rw [Checked.line, hstatus, hkind]

/-!
## Checking tiles of a store

A command that checks tiles reads its raster file once. Checking a tile changes nothing, so each
tile is checked as if it were the only one.
-/

section

variable [ImageCodec] [DatabaseEngine]

namespace VerifyRequest

def store (request : VerifyRequest) : Store :=
  Store.ofBackend request.backend request.cacheDir request.tileset request.gridName

def verdict (request : VerifyRequest) (raster : Raster) (w : World) (tile : TileAddress) :
    Except Fault Checked :=
  (raster.verdict request.grid request.store w tile).map fun comparison =>
    ⟨request.backend, tile, comparison⟩

end VerifyRequest

theorem checkTiles_cons (raster : Raster) (grid : TileGrid) (store : Store) (tile : TileAddress)
    (rest : List TileAddress) :
    checkTiles raster grid store (tile :: rest) = (do
      let comparison ← raster.check grid store tile
      let others ← checkTiles raster grid store rest
      return ⟨store.backend, tile, comparison⟩ :: others) := by
  rw [checkTiles]
  unfold Raster.check
  simp only [bind_assoc]

theorem outcome_checkTiles (request : VerifyRequest) (raster : Raster) (tiles : List TileAddress)
    {w later : World} (htree : later.tree = w.tree) (hcwd : later.cwd = w.cwd) :
    (Effect.run (checkTiles raster request.grid request.store tiles) later).1 =
      tiles.mapM (request.verdict raster w) := by
  -- A check keeps the tree, so every tile is judged on the one before the first check.
  induction tiles generalizing later with
  | nil => rfl
  | cons tile rest ih =>
      have hbackend : request.store.backend = request.backend := Store.backend_ofBackend _ _ _ _
      have hkept := raster.keeps_check (fun t cwd => t = w.tree ∧ cwd = w.cwd) request.grid
        request.store tile later ⟨htree, hcwd⟩
      have hverdict := raster.outcome_check request.grid request.store tile later
      rw [Raster.verdict_eq htree hcwd] at hverdict
      rw [checkTiles_cons, List.mapM_cons, Effect.run_bind, VerifyRequest.verdict, ← hverdict,
        hbackend]
      rcases hrun : Effect.run (raster.check request.grid request.store tile) later with
        ⟨outcome, checked⟩
      rw [hrun] at hkept
      cases outcome with
      | error fault => rfl
      | ok comparison =>
          dsimp only
          rw [Effect.run_bind, ← ih hkept.1 hkept.2]
          rcases Effect.run (checkTiles raster request.grid request.store rest) checked with
            ⟨others, last⟩
          cases others with
          | error fault => rfl
          | ok others => rfl

variable [TiffCodec]

namespace VerifyRequest

def Finds (request : VerifyRequest) (w : World) (found : List Checked) : Prop :=
  ∃ raster, rasterIn request.raster w.tree w.cwd = .ok raster ∧
    request.tiles.map (request.verdict raster w) = found.map .ok

def Breaks (request : VerifyRequest) (w : World) : Prop :=
  (∃ fault, rasterIn request.raster w.tree w.cwd = .error fault) ∨
    ∃ raster, rasterIn request.raster w.tree w.cwd = .ok raster ∧
      ∃ tile ∈ request.tiles, ∃ fault, request.verdict raster w tile = .error fault

end VerifyRequest

section

variable {request : VerifyRequest} {w : World} {raster : Raster}

theorem outcome_verify_of_unread {fault : Fault}
    (h : rasterIn request.raster w.tree w.cwd = .error fault) :
    ∃ diagnosis, (verify request w).1 = .error diagnosis := by
  have hread : readRaster request.raster w = (.error fault, w) := run_readRaster_of_error h
  unfold verify
  rw [step_bind, during, diagnosed, hread]
  exact ⟨_, rfl⟩

theorem verify_of_read (h : rasterIn request.raster w.tree w.cwd = .ok raster) :
    ∃ later checked, Effect.run (checkTiles raster request.grid request.store request.tiles) later =
        (request.tiles.mapM (request.verdict raster w), checked) ∧
      verify request w = plainly (do
        let results ← checkTiles raster request.grid request.store request.tiles
        report results) later := by
  let later : World := ⟨w.tree, w.cwd, w.events ++ [.readRaster request.raster]⟩
  have hread : readRaster request.raster w = (.ok raster, later) := run_readRaster_of_ok h
  have htree : later.tree = w.tree := rfl
  have hcwd : later.cwd = w.cwd := rfl
  have hchecked := outcome_checkTiles request raster request.tiles htree hcwd
  refine ⟨later, _, Prod.ext hchecked rfl, ?_⟩
  unfold verify
  rw [step_bind, during, diagnosed, hread]
  rfl

theorem tellsVerdicts_verify (shown : Level) (request : VerifyRequest) (w : World) :
    TellsVerdicts (completionOf shown (verify request w).1)
      (request.tiles.map fun tile => (request.backend, tile)) (request.Finds w)
      (request.Breaks w) := by
  apply tellsVerdicts_of
  · cases hraster : rasterIn request.raster w.tree w.cwd with
    | error fault => exact Or.inr (Or.inl ⟨fault, hraster⟩)
    | ok raster =>
        cases hall : request.tiles.mapM (request.verdict raster w) with
        | ok found => exact Or.inl ⟨found, raster, hraster, mapM_eq_ok_iff.mp hall⟩
        | error fault =>
            rcases exists_of_mapM_eq_error hall with ⟨tile, htile, hfault⟩
            exact Or.inr (Or.inr ⟨raster, hraster, tile, htile, fault, hfault⟩)
  · rintro found ⟨raster, hraster, hverdicts⟩
    refine ⟨pairs_of_verdicts hverdicts, ?_⟩
    rcases verify_of_read hraster with ⟨later, checked, hchecked, hverify⟩
    rw [mapM_eq_ok_iff.mpr hverdicts] at hchecked
    rcases exists_run_report found checked with ⟨failure, told, hreport, hfailure⟩
    refine ⟨failure, ?_, hfailure⟩
    rw [hverify]
    apply outcome_plainly_of_ok
    rw [Effect.run_bind_of_ok hchecked, hreport]
  · rintro (⟨fault, hraster⟩ | ⟨raster, hraster, tile, htile, fault, hfault⟩)
    · exact outcome_verify_of_unread hraster
    · rcases verify_of_read hraster with ⟨later, checked, hchecked, hverify⟩
      rcases exists_mapM_eq_error htile hfault with ⟨first, hall⟩
      rw [hall] at hchecked
      refine ⟨Diagnosis.ofFault first, ?_⟩
      rw [hverify]
      apply outcome_plainly_of_error
      rw [Effect.run_bind_of_error hchecked]

end

/-!
## Runs

The kinds of store are taken in turn: one is seeded, its tiles are checked as they were seeded, and
the next begins where the checks have ended.
-/

/-- What a run finds from some world on, when no step fails. -/
inductive StoresFind (scenario : Scenario) (seeder : Seeder) (tiles : List TileAddress) :
    World → List Backend → List Checked → Prop where
  | nil (w : World) : StoresFind scenario seeder tiles w [] []
  | cons {w seeded : World} {kind : Backend} {rest : List Backend} {output : SeedOutput}
      {results : Except Fault (List (TileAddress × Comparison))} {told : List Event}
      {found others : List Checked} :
      Effect.run (seeder scenario.configFile kind.defaultTileset scenario.config.zoomLevels)
        { w with events := w.events ++ [.seeding kind] } = (.ok output, seeded) →
      (tiles.map fun tile => (scenario.verdict (scenario.store kind) seeded tile).map
        fun comparison => ⟨kind, tile, comparison⟩) = found.map .ok →
      Effect.run (scenario.verifyTiles (scenario.store kind) tiles) seeded =
        (results, { seeded with events := told }) →
      StoresFind scenario seeder tiles { seeded with events := told } rest others →
        StoresFind scenario seeder tiles w (kind :: rest) (found ++ others)

/-- A step fails in a run from some world on: seeding a kind of store, or checking one of its
tiles. -/
inductive StoresBreak (scenario : Scenario) (seeder : Seeder) (tiles : List TileAddress) :
    World → List Backend → Prop where
  | seeding {w failed : World} {kind : Backend} {rest : List Backend} {fault : Fault} :
      Effect.run (seeder scenario.configFile kind.defaultTileset scenario.config.zoomLevels)
        { w with events := w.events ++ [.seeding kind] } = (.error fault, failed) →
        StoresBreak scenario seeder tiles w (kind :: rest)
  | checking {w seeded : World} {kind : Backend} {rest : List Backend} {output : SeedOutput}
      {tile : TileAddress} {fault : Fault} :
      Effect.run (seeder scenario.configFile kind.defaultTileset scenario.config.zoomLevels)
        { w with events := w.events ++ [.seeding kind] } = (.ok output, seeded) →
      tile ∈ tiles → scenario.verdict (scenario.store kind) seeded tile = .error fault →
        StoresBreak scenario seeder tiles w (kind :: rest)
  | later {w seeded : World} {kind : Backend} {rest : List Backend} {output : SeedOutput}
      {results : Except Fault (List (TileAddress × Comparison))} {told : List Event} :
      Effect.run (seeder scenario.configFile kind.defaultTileset scenario.config.zoomLevels)
        { w with events := w.events ++ [.seeding kind] } = (.ok output, seeded) →
      Effect.run (scenario.verifyTiles (scenario.store kind) tiles) seeded =
        (results, { seeded with events := told }) →
      StoresBreak scenario seeder tiles { seeded with events := told } rest →
        StoresBreak scenario seeder tiles w (kind :: rest)

def AuditFinds (config : Config) (seeder : Seeder) (tiles : List TileAddress)
    (backends : List Backend) (w : World) (found : List Checked) : Prop :=
  ∃ scenario prepared, Effect.run (Scenario.prepare config) w = (.ok scenario, prepared) ∧
    StoresFind scenario seeder tiles prepared backends found

def AuditBreaks (config : Config) (seeder : Seeder) (tiles : List TileAddress)
    (backends : List Backend) (w : World) : Prop :=
  (∃ fault last, Effect.run (Scenario.prepare config) w = (.error fault, last)) ∨
    ∃ scenario prepared, Effect.run (Scenario.prepare config) w = (.ok scenario, prepared) ∧
      StoresBreak scenario seeder tiles prepared backends

section

variable {scenario : Scenario} {seeder : Seeder} {tiles : List TileAddress} {kind : Backend}
  {rest backends : List Backend} {w seeded last : World} {found : List Checked}

theorem exists_run_verifyTiles (scenario : Scenario) (store : Store) (tiles : List TileAddress)
    (w : World) :
    ∃ told, Effect.run (scenario.verifyTiles store tiles) w =
      (tiles.mapM fun tile =>
        (scenario.verdict store w tile).map fun comparison => (tile, comparison),
        { w with events := told }) := by
  have hkeeps : Effect.Keeps (fun t cwd => t = w.tree ∧ cwd = w.cwd)
      (scenario.verifyTiles store tiles) := (scenario.reads_verifyTiles store tiles).keeps _
  rcases hkeeps w ⟨rfl, rfl⟩ with ⟨htree, hcwd⟩
  refine ⟨(Effect.run (scenario.verifyTiles store tiles) w).2.events, Prod.ext ?_ ?_⟩
  · exact scenario.outcome_verifyTiles store tiles rfl rfl
  · exact congrArg₂ (fun t cwd => (⟨t, cwd, _⟩ : World)) htree hcwd

theorem mapM_verdict (scenario : Scenario) (kind : Backend) (tiles : List TileAddress) (w : World) :
    (tiles.mapM fun tile => (scenario.verdict (scenario.store kind) w tile).map
      fun comparison => (tile, comparison)).map
        (List.map fun r => (⟨kind, r.1, r.2⟩ : Checked)) =
      tiles.mapM fun tile => (scenario.verdict (scenario.store kind) w tile).map
        fun comparison => ⟨kind, tile, comparison⟩ := by
  rw [map_mapM]
  congr 1
  funext tile
  cases scenario.verdict (scenario.store kind) w tile with
  | error fault => rfl
  | ok comparison => rfl

theorem run_seedAndCheck_cons {output : SeedOutput} {results : List (TileAddress × Comparison)}
    {checked : World}
    (hseed : Effect.run (scenario.seed seeder kind) w = (.ok output, seeded))
    (hchecks : Effect.run (scenario.verifyTiles (scenario.store kind) tiles) seeded =
      (.ok results, checked)) :
    Effect.run (seedAndCheck scenario seeder tiles (kind :: rest)) w =
      match Effect.run (seedAndCheck scenario seeder tiles rest) checked with
      | (.ok others, last) => (.ok (results.map (fun r => ⟨kind, r.1, r.2⟩) ++ others), last)
      | (.error fault, last) => (.error fault, last) := by
  rw [seedAndCheck, Effect.run_bind_of_ok hseed, Effect.run_bind_of_ok hchecks, Effect.run_bind]
  rcases Effect.run (seedAndCheck scenario seeder tiles rest) checked with ⟨outcome, last⟩
  cases outcome with
  | error fault => rfl
  | ok others => rfl

theorem StoresFind.exists_run (h : StoresFind scenario seeder tiles w backends found) :
    ∃ last, Effect.run (seedAndCheck scenario seeder tiles backends) w = (.ok found, last) := by
  induction h with
  | nil w => exact ⟨w, rfl⟩
  | @cons w seeded kind rest output results told found others hseed hfound hchecks _ ih =>
      rcases ih with ⟨last, hrest⟩
      have hresults : results.map (List.map fun r => ⟨kind, r.1, r.2⟩) = .ok found := by
        rcases exists_run_verifyTiles scenario (scenario.store kind) tiles seeded with
          ⟨_, hverdicts⟩
        cases hchecks.symm.trans hverdicts
        rw [mapM_verdict, mapM_eq_ok_iff]
        exact hfound
      cases results with
      | error fault => cases hresults
      | ok results =>
          cases hresults
          refine ⟨last, ?_⟩
          rw [run_seedAndCheck_cons (run_seed hseed) hchecks, hrest]

theorem StoresBreak.exists_run (h : StoresBreak scenario seeder tiles w backends) :
    ∃ fault last, Effect.run (seedAndCheck scenario seeder tiles backends) w =
      (.error fault, last) := by
  induction h with
  | @seeding w failed kind rest fault hseed =>
      refine ⟨fault, failed, ?_⟩
      rw [seedAndCheck, Effect.run_bind_of_error (run_seed hseed)]
  | @checking w seeded kind rest output tile fault hseed htile hfault =>
      rcases exists_run_verifyTiles scenario (scenario.store kind) tiles seeded with
        ⟨told, hchecks⟩
      let check : TileAddress → Except Fault (TileAddress × Comparison) := fun tile =>
        (scenario.verdict (scenario.store kind) seeded tile).map fun comparison => (tile, comparison)
      have hone : check tile = .error fault := by
        dsimp only [check]
        rw [hfault]
        rfl
      rcases exists_mapM_eq_error htile hone with ⟨first, hfirst⟩
      rw [hfirst] at hchecks
      refine ⟨first, { seeded with events := told }, ?_⟩
      rw [seedAndCheck, Effect.run_bind_of_ok (run_seed hseed), Effect.run_bind_of_error hchecks]
  | @later w seeded kind rest output results told hseed hchecks _ ih =>
      rcases ih with ⟨fault, last, hrest⟩
      cases results with
      | error first =>
          refine ⟨first, { seeded with events := told }, ?_⟩
          rw [seedAndCheck, Effect.run_bind_of_ok (run_seed hseed), Effect.run_bind_of_error hchecks]
      | ok results =>
          refine ⟨fault, last, ?_⟩
          rw [run_seedAndCheck_cons (run_seed hseed) hchecks, hrest]

theorem storesFind_or_storesBreak (scenario : Scenario) (seeder : Seeder)
    (tiles : List TileAddress) (backends : List Backend) (w : World) :
    (∃ found, StoresFind scenario seeder tiles w backends found) ∨
      StoresBreak scenario seeder tiles w backends := by
  induction backends generalizing w with
  | nil => exact Or.inl ⟨[], .nil w⟩
  | cons kind rest ih =>
      rcases hseed : Effect.run
        (seeder scenario.configFile kind.defaultTileset scenario.config.zoomLevels)
        { w with events := w.events ++ [.seeding kind] } with ⟨outcome, seeded⟩
      cases outcome with
      | error fault => exact Or.inr (.seeding hseed)
      | ok output =>
          rcases exists_run_verifyTiles scenario (scenario.store kind) tiles seeded with
            ⟨told, hchecks⟩
          cases hall : tiles.mapM fun tile => (scenario.verdict (scenario.store kind) seeded tile).map
              fun comparison => (⟨kind, tile, comparison⟩ : Checked) with
          | error fault =>
              rcases exists_of_mapM_eq_error hall with ⟨tile, htile, hfault⟩
              cases hverdict : scenario.verdict (scenario.store kind) seeded tile with
              | error fault => exact Or.inr (.checking hseed htile hverdict)
              | ok comparison =>
                  rw [hverdict] at hfault
                  cases hfault
          | ok found =>
              rcases ih { seeded with events := told } with ⟨others, hothers⟩ | hbroken
              · exact Or.inl ⟨_, .cons hseed (mapM_eq_ok_iff.mp hall) hchecks hothers⟩
              · exact Or.inr (.later hseed hchecks hbroken)

theorem StoresFind.pairs (h : StoresFind scenario seeder tiles w backends found) :
    found.map (fun c => (c.backend, c.tile)) =
      backends.flatMap fun kind => tiles.map fun tile => (kind, tile) := by
  induction h with
  | nil w => rfl
  | cons _ hfound _ _ ih => rw [List.map_append, pairs_of_verdicts hfound, ih, List.flatMap_cons]

end

theorem tellsVerdicts_audit (shown : Level) (config : Config) (seeder : Seeder)
    (tiles : List TileAddress) (backends : List Backend) (w : World) :
    TellsVerdicts (completionOf shown (plainly (audit config seeder tiles backends) w).1)
      (backends.flatMap fun kind => tiles.map fun tile => (kind, tile))
      (AuditFinds config seeder tiles backends w) (AuditBreaks config seeder tiles backends w) := by
  apply tellsVerdicts_of
  · rcases hprepare : Effect.run (Scenario.prepare config) w with ⟨outcome, prepared⟩
    cases outcome with
    | error fault => exact Or.inr (Or.inl ⟨fault, prepared, hprepare⟩)
    | ok scenario =>
        rcases storesFind_or_storesBreak scenario seeder tiles backends prepared with
          ⟨found, hfound⟩ | hbroken
        · exact Or.inl ⟨found, scenario, prepared, hprepare, hfound⟩
        · exact Or.inr (Or.inr ⟨scenario, prepared, hprepare, hbroken⟩)
  · rintro found ⟨scenario, prepared, hprepare, hfound⟩
    rcases hfound.exists_run with ⟨last, hrun⟩
    rcases exists_run_report found last with ⟨failure, told, hreport, hfailure⟩
    refine ⟨hfound.pairs, failure, ?_, hfailure⟩
    apply outcome_plainly_of_ok
    unfold audit
    rw [Effect.run_bind_of_ok hprepare, Effect.run_thenAlways, Effect.run_bind_of_ok hrun, hreport]
  · rintro (⟨fault, last, hprepare⟩ | ⟨scenario, prepared, hprepare, hbroken⟩)
    · refine ⟨Diagnosis.ofFault fault, ?_⟩
      apply outcome_plainly_of_error
      unfold audit
      rw [Effect.run_bind_of_error hprepare]
    · rcases hbroken.exists_run with ⟨fault, last, hrun⟩
      refine ⟨Diagnosis.ofFault fault, ?_⟩
      apply outcome_plainly_of_error
      unfold audit
      rw [Effect.run_bind_of_ok hprepare, Effect.run_thenAlways, Effect.run_bind_of_error hrun]

/-- The exit status of a command that checks tiles is the conjunction of its verdicts. The command
ends with zero when no step fails and every tile matches; when no step fails it prints one line for
each pair of a kind of store and a tile, with its verdict and count, and when a step fails it prints
none. So does a run, by any seeder. -/
theorem exit_tells_verdicts [Launcher] :
    (∀ (env : Environment) (shown : Level) (request : VerifyRequest) (w : World),
      TellsVerdicts (completionOf shown ((Request.verify request).perform env w).1)
        (request.tiles.map fun tile => (request.backend, tile)) (request.Finds w)
        (request.Breaks w)) ∧
    (∀ (shown : Level) (config : Config) (seeder : Seeder) (tiles : List TileAddress)
        (backends : List Backend) (w : World),
      TellsVerdicts (completionOf shown (plainly (audit config seeder tiles backends) w).1)
        (backends.flatMap fun kind => tiles.map fun tile => (kind, tile))
        (AuditFinds config seeder tiles backends w)
        (AuditBreaks config seeder tiles backends w)) ∧
    (∀ (env : Environment) (request : RunRequest),
      (Request.run request).perform env = plainly
        (audit (request.config env) (seederOf (request.config env)).seed request.tiles
          request.backends)) ∧
    (∀ (env : Environment) (words : List String) (shown : Level) (request : Request) (w : World),
      ofWords words = .ok (shown, request) →
        (execute env words w).1 = completionOf shown (request.perform env w).1) ∧
    ∀ c : Checked, c.line = (if c.comparison.matched then "OK  " else "FAIL") ++ " " ++
      (match c.backend with
      | .disk => "disk  "
      | .sqlite => "sqlite") ++ " " ++ c.tile.name ++ " (" ++
      toString c.comparison.mismatchCount ++ " differing samples)" := by
  refine ⟨fun _ shown request w => tellsVerdicts_verify shown request w, tellsVerdicts_audit,
    fun env request => run_eq_audit env request, ?_, line_eq⟩
  intro env words shown request w hwords
  unfold execute
  rw [hwords]
  rfl

end

end CommandLine
end TileAudit
