import Mathlib.Data.List.ReduceOption
import TileAudit.Proofs.Command.Residue
import TileAudit.Proofs.Effect.Sequence
import TileAudit.Proofs.Scenario.Verdict

/-!
# Calls of a run

What a run does with a prepared scenario is a list of calls: for each kind of store the seeder is
called, and then each tile is checked. The calls are made in turn, up to the first that fails, so
what was done at any point is a prefix of that list.
-/

namespace TileAudit
namespace CommandLine

/-- What a run asks for in one go. -/
inductive Call where
  /-- The seeder is called with a configuration file, a tileset and zoom levels. -/
  | seed (kind : Backend) (configFile tileset : String) (zooms : List UInt32)
  /-- A tile is read from a store and compared. -/
  | check (kind : Backend) (tile : TileAddress)
deriving DecidableEq, Repr

namespace Call

def perform [TiffCodec] [ImageCodec] [DatabaseEngine] (scenario : Scenario) (seeder : Seeder) :
    Call → Effect (Option Checked)
  | seed kind configFile tileset zooms => do
      Effect.tell (.seeding kind)
      let _ ← seeder configFile tileset zooms
      return none
  | check kind tile => do
      let comparison ← scenario.verifyTile (scenario.store kind) tile
      return some ⟨kind, tile, comparison⟩

def seeding? : Call → Option (String × String × List UInt32)
  | seed _ configFile tileset zooms => some (configFile, tileset, zooms)
  | check _ _ => none

/-- The calls of a run: those about a kind of store before those about the next. -/
def agenda (configFile : String) (zooms : List UInt32) (tiles : List TileAddress)
    (backends : List Backend) : List Call :=
  backends.flatMap fun kind =>
    seed kind configFile kind.defaultTileset zooms :: tiles.map (check kind)

/-!
## The order of the calls

A call is due when all that is listed before it has been done. Every prefix of the agenda consists
of calls that were due.
-/

section

variable {configFile : String} {zooms : List UInt32} {tiles : List TileAddress}
  {backends : List Backend}

theorem agenda_cons (kind : Backend) (rest : List Backend) :
    agenda configFile zooms tiles (kind :: rest) =
      seed kind configFile kind.defaultTileset zooms ::
        (tiles.map (check kind) ++ agenda configFile zooms tiles rest) := rfl

theorem filterMap_seeding?_agenda :
    (agenda configFile zooms tiles backends).filterMap seeding? =
      backends.map fun kind => (configFile, kind.defaultTileset, zooms) := by
  induction backends with
  | nil => rfl
  | cons kind rest ih =>
      have hfirst : seeding? (seed kind configFile kind.defaultTileset zooms) =
          some (configFile, kind.defaultTileset, zooms) := rfl
      have hchecks : (tiles.map (check kind)).filterMap seeding? = [] := by
        rw [List.filterMap_map]
        exact List.filterMap_eq_nil_iff.mpr fun _ _ => rfl
      rw [agenda_cons, List.filterMap_cons_some hfirst, List.filterMap_append, hchecks,
        List.nil_append, ih, List.map_cons]

variable (configFile zooms tiles) in
/-- The calls that have been made when a call is due. All that is about the kinds of store listed
before has been done; a tile is due when its kind has been seeded and the tiles listed before have
been checked, and no others. -/
inductive Due (backends : List Backend) : List Call → Call → Prop where
  | seed (earlier : List Backend) (kind : Backend) (later : List Backend) :
      backends = earlier ++ kind :: later →
        Due backends (agenda configFile zooms tiles earlier)
          (.seed kind configFile kind.defaultTileset zooms)
  | check (earlier : List Backend) (kind : Backend) (later : List Backend)
      (front : List TileAddress) (tile : TileAddress) (back : List TileAddress) :
      backends = earlier ++ kind :: later → tiles = front ++ tile :: back →
        Due backends
          (agenda configFile zooms tiles earlier ++
            .seed kind configFile kind.defaultTileset zooms :: front.map (.check kind))
          (.check kind tile)

theorem Due.cons {rest : List Backend} {before : List Call} {call : Call} (kind : Backend)
    (h : Due configFile zooms tiles rest before call) :
    Due configFile zooms tiles (kind :: rest)
      (.seed kind configFile kind.defaultTileset zooms :: (tiles.map (.check kind) ++ before))
      call := by
  cases h with
  | seed earlier other later hrest =>
      exact .seed (kind :: earlier) other later (congrArg (kind :: ·) hrest)
  | check earlier other later front tile back hrest htiles =>
      rw [← List.append_assoc, ← List.cons_append, ← agenda_cons]
      exact .check (kind :: earlier) other later front tile back (congrArg (kind :: ·) hrest) htiles

theorem split_of_append_eq {α : Type} {first second before after : List α} {a : α}
    (h : first ++ second = before ++ a :: after) :
    (∃ back, first = before ++ a :: back) ∨
      ∃ front, before = first ++ front ∧ second = front ++ a :: after := by
  rcases List.append_eq_append_iff.mp h with ⟨front, hbefore, hsecond⟩ | ⟨back, hfirst, hafter⟩
  · exact Or.inr ⟨front, hbefore, hsecond⟩
  · cases back with
    | nil =>
        rw [List.append_nil] at hfirst
        exact Or.inr ⟨[], by rw [hfirst, List.append_nil], hafter.symm⟩
    | cons next back =>
        rcases List.cons_eq_cons.mp hafter with ⟨rfl, _⟩
        exact Or.inl ⟨back, hfirst⟩

theorem due_of_agenda {before after : List Call} {call : Call}
    (h : agenda configFile zooms tiles backends = before ++ call :: after) :
    Due configFile zooms tiles backends before call := by
  induction backends generalizing before with
  | nil =>
      have hnil : ([] : List Call) = before ++ call :: after := h
      simp at hnil
  | cons kind rest ih =>
      -- The call seeds the first kind, checks a tile of it, or is about one of the other kinds.
      rw [agenda_cons] at h
      rcases List.cons_eq_append_iff.mp h with ⟨rfl, hcall⟩ | ⟨others, rfl, hothers⟩
      · cases hcall
        exact .seed [] kind rest rfl
      · rcases split_of_append_eq hothers with ⟨back, hchecks⟩ | ⟨front, rfl, hrest⟩
        · rcases List.map_eq_append_iff.mp hchecks with ⟨front, others', htiles, rfl, hback⟩
          rcases List.map_eq_cons_iff.mp hback with ⟨tile, back', rfl, rfl, _⟩
          exact .check [] kind rest front tile _ rfl htiles
        · exact (ih hrest).cons kind

/-- Calls in the order of the agenda, as far as they have come. -/
structure InOrder (configFile : String) (zooms : List UInt32) (tiles : List TileAddress)
    (backends : List Backend) (calls : List Call) : Prop where
  /-- The seeder is called for the kinds of store in turn, with the same file and zoom levels. -/
  seedings : calls.filterMap seeding? <+:
    backends.map fun kind => (configFile, kind.defaultTileset, zooms)
  due : ∀ before call after, calls = before ++ call :: after →
    Due configFile zooms tiles backends before call

theorem inOrder_of_isPrefix {calls : List Call}
    (h : calls <+: agenda configFile zooms tiles backends) :
    InOrder configFile zooms tiles backends calls where
  seedings := by
    have hseedings := h.filterMap seeding?
    rwa [filterMap_seeding?_agenda] at hseedings
  due := by
    rintro before call after rfl
    rcases h with ⟨others, hothers⟩
    apply due_of_agenda
    rw [← hothers, List.append_assoc, List.cons_append]

end

end Call

/-!
## A run as its calls

A run is the agenda performed call by call, so it is refused before the first call, stopped by one
of them, or completed.
-/

section

variable [TiffCodec] [ImageCodec] [DatabaseEngine]

theorem Call.outcome_check (scenario : Scenario) (seeder : Seeder) (kind : Backend)
    (tile : TileAddress) (w : World) :
    (Effect.run (perform scenario seeder (.check kind tile)) w).1 =
      (scenario.verdict (scenario.store kind) w tile).map fun comparison =>
        some ⟨kind, tile, comparison⟩ := by
  rw [← Scenario.outcome_verifyTile]
  unfold perform
  rw [Effect.run_bind]
  rcases Effect.run (scenario.verifyTile (scenario.store kind) tile) w with ⟨outcome, last⟩
  cases outcome with
  | error fault => rfl
  | ok comparison => rfl

theorem mapM_perform_checks (scenario : Scenario) (seeder : Seeder) (kind : Backend)
    (tiles : List TileAddress) :
    (tiles.map (Call.check kind)).mapM (Call.perform scenario seeder) = do
      let results ← scenario.verifyTiles (scenario.store kind) tiles
      return results.map fun r => some ⟨kind, r.1, r.2⟩ := by
  induction tiles with
  | nil => rfl
  | cons tile rest ih =>
      rw [List.map_cons, List.mapM_cons, ih, Scenario.verifyTiles, Call.perform]
      simp only [bind_assoc, pure_bind, List.map_cons]

theorem seedAndCheck_eq (scenario : Scenario) (seeder : Seeder) (tiles : List TileAddress)
    (backends : List Backend) :
    seedAndCheck scenario seeder tiles backends = do
      let found ← (Call.agenda scenario.configFile scenario.config.zoomLevels tiles backends).mapM
        (Call.perform scenario seeder)
      return found.reduceOption := by
  induction backends with
  | nil => rfl
  | cons kind rest ih =>
      have hresults : ∀ (results : List (TileAddress × Comparison)) (found : List (Option Checked)),
          (results.map fun r => (⟨kind, r.1, r.2⟩ : Checked)) ++ found.reduceOption =
            (none :: ((results.map fun r => some ⟨kind, r.1, r.2⟩) ++ found)).reduceOption := by
        intro results found
        have hsome : (results.map fun r => some (⟨kind, r.1, r.2⟩ : Checked)).reduceOption =
            results.map fun r => ⟨kind, r.1, r.2⟩ := by
          rw [List.reduceOption, List.filterMap_map]
          exact congrFun List.filterMap_eq_map results
        rw [List.reduceOption_cons_of_none, List.reduceOption_append, hsome]
      rw [seedAndCheck, ih, Call.agenda_cons, List.mapM_cons, List.mapM_append, mapM_perform_checks,
        Call.perform, Scenario.seed]
      simp only [bind_assoc, pure_bind, hresults]

variable {config : Config} {scenario : Scenario} {seeder : Seeder} {tiles : List TileAddress}
  {backends : List Backend} {w prepared last : World} {fault : Fault}
  {done : List (Call × Option Checked)}

theorem audit_cases (config : Config) (seeder : Seeder) (tiles : List TileAddress)
    (backends : List Backend) (w : World) :
    (∃ fault last, Effect.run (Scenario.prepare config) w = (.error fault, last)) ∨
    ∃ scenario prepared, Effect.run (Scenario.prepare config) w = (.ok scenario, prepared) ∧
      ((∃ done last, Effect.Completes (Call.perform scenario seeder) prepared
          (Call.agenda config.configPath config.zoomLevels tiles backends) done last) ∨
        ∃ done call fault last, Effect.Stops (Call.perform scenario seeder) prepared
          (Call.agenda config.configPath config.zoomLevels tiles backends) done call fault last) := by
  rcases hprepare : Effect.run (Scenario.prepare config) w with ⟨outcome, prepared⟩
  cases outcome with
  | error fault => exact Or.inl ⟨fault, prepared, rfl⟩
  | ok scenario => exact Or.inr ⟨scenario, prepared, rfl, Effect.completes_or_stops _ _ _⟩

theorem run_audit_of_refused (h : Effect.run (Scenario.prepare config) w = (.error fault, last)) :
    Effect.run (audit config seeder tiles backends) w = (.error fault, last) :=
  Effect.run_bind_of_error h _

variable (hprepare : Effect.run (Scenario.prepare config) w = (.ok scenario, prepared))

include hprepare

theorem run_audit_of_prepared :
    Effect.run (audit config seeder tiles backends) w =
      Effect.run (Effect.thenAlways
        (do
          let found ← (Call.agenda config.configPath config.zoomLevels tiles backends).mapM
            (Call.perform scenario seeder)
          report found.reduceOption)
        scenario.finish) prepared := by
  unfold audit
  rw [Effect.run_bind_of_ok hprepare, seedAndCheck_eq, bind_assoc,
    Scenario.configFile_of_run_prepare hprepare, (Scenario.filled_of_run_prepare hprepare).1]
  simp only [pure_bind]

theorem run_audit_of_completes
    (h : Effect.Completes (Call.perform scenario seeder) prepared
      (Call.agenda config.configPath config.zoomLevels tiles backends) done last) :
    Effect.run (audit config seeder tiles backends) w =
      ((Effect.run (report (done.map Prod.snd).reduceOption) last).1,
        (Effect.run scenario.finish
          (Effect.run (report (done.map Prod.snd).reduceOption) last).2).2) := by
  rw [run_audit_of_prepared hprepare, Effect.run_thenAlways, Effect.run_bind_of_ok h.run_mapM]

theorem run_audit_of_stops {call : Call}
    (h : Effect.Stops (Call.perform scenario seeder) prepared
      (Call.agenda config.configPath config.zoomLevels tiles backends) done call fault last) :
    Effect.run (audit config seeder tiles backends) w =
      (.error fault, (Effect.run scenario.finish last).2) := by
  rw [run_audit_of_prepared hprepare, Effect.run_thenAlways, Effect.run_bind_of_error h.run_mapM]

end

end CommandLine
end TileAudit
