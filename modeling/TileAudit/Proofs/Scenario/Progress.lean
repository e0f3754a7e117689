import TileAudit.Proofs.Scenario.Keeping

/-!
# Progress of an audit

An audit tells when it has a store seeded, when it checks a tile and when it reads one. These events
are its progress. Every step has a list of them that it tells in this order: all of it when the step
ends well, and some front of it when the step fails. Reading a raster, reading tiles and comparing
them tell progress at most; so the tiles of a scenario are checked on the tree that was seeded, and
only a seeder changes anything.
-/

namespace TileAudit

def Event.isProgress : Event → Bool
  | .seeding _ | .verifying _ _ | .readingTile _ _ => true
  | _ => false

def World.progress (w : World) : List Event :=
  w.events.filter Event.isProgress

/-- A step that tells some events of progress, up to where it fails. -/
def Effect.TellsUpTo {α : Type} (told : List Event) (step : Effect α) : Prop :=
  ∀ w : World, ∃ front, (Effect.run step w).2.progress = w.progress ++ front ∧ front <+: told ∧
    ∀ a, (Effect.run step w).1 = .ok a → front = told

/-!
## Sequences and single steps

A step that only reads changes nothing, and tells its progress. Most steps of an audit are of this
kind.
-/

namespace Effect

variable {α β : Type} {told first second : List Event}

theorem TellsUpTo.bind {step : Effect α} {next : α → Effect β} (h : TellsUpTo first step)
    (hnext : ∀ a, TellsUpTo second (next a)) : TellsUpTo (first ++ second) (step >>= next) := by
  intro w
  rcases h w with ⟨front, hfront, hprefix, hall⟩
  rw [run_bind]
  rcases hrun : run step w with ⟨outcome, middle⟩
  rw [hrun] at hfront hall
  cases outcome with
  | error fault =>
      refine ⟨front, hfront, hprefix.trans (List.prefix_append first second), ?_⟩
      intro b hb
      cases hb
  | ok a =>
      cases hall a rfl
      rcases hnext a middle with ⟨back, hback, hprefix', hall'⟩
      refine ⟨first ++ back, ?_, ?_, ?_⟩
      · dsimp only
        rw [hback, hfront, List.append_assoc]
      · exact (List.prefix_append_right_inj first).mpr hprefix'
      · intro b hb
        rw [hall' b hb]

theorem TellsUpTo.bind_silent {step : Effect α} {next : α → Effect β} (h : TellsUpTo told step)
    (hnext : ∀ a, TellsUpTo [] (next a)) : TellsUpTo told (step >>= next) := by
  have hboth := h.bind hnext
  rwa [List.append_nil] at hboth

theorem TellsUpTo.silent_bind {step : Effect α} {next : α → Effect β} (h : TellsUpTo [] step)
    (hnext : ∀ a, TellsUpTo told (next a)) : TellsUpTo told (step >>= next) :=
  h.bind hnext

theorem silent_of_events_eq {step : Effect α} (h : ∀ w, (run step w).2.events = w.events) :
    TellsUpTo [] step := by
  intro w
  refine ⟨[], ?_, List.prefix_refl [], fun _ _ => rfl⟩
  rw [List.append_nil, World.progress, World.progress, h w]

theorem silent_pure (a : α) : TellsUpTo [] (pure a : Effect α) :=
  silent_of_events_eq fun _ => rfl

theorem silent_ofExcept (value : Except Fault α) : TellsUpTo [] (ofExcept value) :=
  silent_of_events_eq fun _ => rfl

theorem silent_inspect (f : FileTree → Location → α) : TellsUpTo [] (inspect f) :=
  silent_of_events_eq fun _ => rfl

theorem silent_changePartly (f : FileTree → Location → FileTree × Except IoKind Unit) :
    TellsUpTo [] (changePartly f) :=
  silent_of_events_eq fun _ => rfl

theorem silent_writeBytes (path : String) (bytes : ByteArray) :
    TellsUpTo [] (writeBytes path bytes) := by
  apply silent_of_events_eq
  intro w
  cases hwrite : w.tree.writeContent w.cwd path (.bytes bytes) with
  | ok tree => rw [run_writeBytes_of_ok hwrite]
  | error kind => simp only [run, writeBytes, change, hwrite]

theorem silent_tellAll {events : List Event} (h : ∀ e ∈ events, e.isProgress = false) :
    TellsUpTo [] (tellAll events) := by
  intro w
  refine ⟨[], ?_, List.prefix_refl [], fun _ _ => rfl⟩
  have hnone : events.filter Event.isProgress = [] := by
    rw [List.filter_eq_nil_iff]
    intro e he
    rw [h e he]
    exact Bool.false_ne_true
  show (w.events ++ events).filter Event.isProgress = w.progress ++ []
  rw [List.filter_append, hnone]
  rfl

theorem silent_tell {event : Event} (h : event.isProgress = false) : TellsUpTo [] (tell event) := by
  have hall : ∀ e ∈ [event], e.isProgress = false := by
    intro e he
    rw [List.mem_singleton.mp he]
    exact h
  exact silent_tellAll hall

theorem tellsUpTo_tell {event : Event} (h : event.isProgress = true) :
    TellsUpTo [event] (tell event) := by
  intro w
  refine ⟨[event], ?_, List.prefix_refl [event], fun _ _ => rfl⟩
  show (w.events ++ [event]).filter Event.isProgress = w.progress ++ [event]
  rw [List.filter_append, List.filter_cons_of_pos h]
  rfl

theorem TellsUpTo.attempt {step : Effect α} (h : TellsUpTo [] step) :
    TellsUpTo [] (attempt step) := by
  intro w
  rcases h w with ⟨front, hfront, hprefix, _⟩
  rw [run_attempt]
  exact ⟨front, hfront, hprefix, fun _ _ => List.prefix_nil.mp hprefix⟩

theorem TellsUpTo.thenAlways {step : Effect α} {last : Effect Unit} (h : TellsUpTo told step)
    (hlast : TellsUpTo [] last) : TellsUpTo told (thenAlways step last) := by
  intro w
  rcases h w with ⟨front, hfront, hprefix, hall⟩
  rcases hlast (run step w).2 with ⟨back, hback, hnone, _⟩
  rw [List.prefix_nil.mp hnone, List.append_nil] at hback
  rw [run_thenAlways]
  exact ⟨front, hback.trans hfront, hprefix, hall⟩

theorem not_isProgress_of_mem_ite {condition : Prop} [Decidable condition] {event e : Event}
    (h : event.isProgress = false) (he : e ∈ if condition then [event] else []) :
    e.isProgress = false := by
  split at he
  · rw [List.mem_singleton.mp he]
    exact h
  · cases he

/-- A step that only reads: it changes nothing, and tells its progress. -/
structure Reads (told : List Event) (step : Effect α) : Prop where
  tells : TellsUpTo told step
  keeps : ∀ property, Keeps property step

theorem Reads.bind {step : Effect α} {next : α → Effect β} (h : Reads first step)
    (hnext : ∀ a, Reads second (next a)) : Reads (first ++ second) (step >>= next) where
  tells := h.tells.bind fun a => (hnext a).tells
  keeps := fun property => (h.keeps property).bind fun a => (hnext a).keeps property

theorem Reads.bind_silent {step : Effect α} {next : α → Effect β} (h : Reads told step)
    (hnext : ∀ a, Reads [] (next a)) : Reads told (step >>= next) := by
  have hboth := h.bind hnext
  rwa [List.append_nil] at hboth

theorem Reads.silent_bind {step : Effect α} {next : α → Effect β} (h : Reads [] step)
    (hnext : ∀ a, Reads told (next a)) : Reads told (step >>= next) :=
  h.bind hnext

theorem Reads.attempt {step : Effect α} (h : Reads [] step) : Reads [] (attempt step) where
  tells := h.tells.attempt
  keeps := fun property => (h.keeps property).attempt

theorem reads_pure (a : α) : Reads [] (pure a : Effect α) :=
  ⟨silent_pure a, fun _ => keeps_pure a⟩

theorem reads_ofExcept (value : Except Fault α) : Reads [] (ofExcept value) :=
  ⟨silent_ofExcept value, fun _ => keeps_ofExcept value⟩

theorem reads_inspect (f : FileTree → Location → α) : Reads [] (inspect f) :=
  ⟨silent_inspect f, fun _ => keeps_inspect f⟩

theorem reads_tellAll {events : List Event} (h : ∀ e ∈ events, e.isProgress = false) :
    Reads [] (tellAll events) :=
  ⟨silent_tellAll h, fun _ => keeps_tellAll events⟩

theorem reads_tell {event : Event} (h : event.isProgress = false) : Reads [] (tell event) :=
  ⟨silent_tell h, fun _ => keeps_tell event⟩

theorem reads_tell_progress {event : Event} (h : event.isProgress = true) :
    Reads [event] (tell event) :=
  ⟨tellsUpTo_tell h, fun _ => keeps_tell event⟩

end Effect

open Effect

theorem reads_readRaster [TiffCodec] (path : String) : Reads [] (readRaster path) := by
  unfold readRaster
  refine (reads_inspect _).silent_bind fun found => ?_
  cases found with
  | error fault => exact reads_ofExcept _
  | ok raster => exact (reads_tell rfl).silent_bind fun _ => reads_pure _

theorem reads_expectedTile (raster : Raster) (grid : TileGrid) (tile : TileAddress) :
    Reads [] (raster.expectedTile grid tile) := by
  unfold Raster.expectedTile
  refine (reads_tell rfl).silent_bind fun _ => ?_
  cases raster.sampleTile? grid tile with
  | none => exact reads_ofExcept _
  | some expected =>
      refine (reads_tellAll fun _ => not_isProgress_of_mem_ite rfl).silent_bind fun _ => ?_
      exact reads_pure _

theorem reads_decodeTile [ImageCodec] (origin : String) (bytes : ByteArray) :
    Reads [] (decodeTile origin bytes) := by
  unfold decodeTile
  cases ImageCodec.decode? bytes with
  | none => exact (reads_tell rfl).silent_bind fun _ => reads_pure _
  | some image => exact (reads_ofExcept _).silent_bind fun _ => reads_pure _

theorem DiskStore.reads_readTile [ImageCodec] (store : DiskStore) (tile : TileAddress) :
    Reads [.readingTile .disk tile] (store.readTile tile) := by
  unfold DiskStore.readTile
  refine (reads_tell_progress rfl).bind_silent fun _ => ?_
  refine (reads_inspect _).silent_bind fun found => ?_
  cases found with
  | ok bytes => exact reads_decodeTile _ _
  | error kind =>
      cases kind <;> exact (reads_tell rfl).silent_bind fun _ => reads_pure _

theorem TableStore.reads_readBlob [DatabaseEngine] (store : TableStore) (tile : TileAddress) :
    Reads [] (store.readBlob tile) := by
  unfold TableStore.readBlob
  refine (reads_inspect _).silent_bind fun found => ?_
  rcases found with _ | ⟨reason | ⟨_ | ⟨data, several⟩⟩⟩
  · exact (reads_tell rfl).silent_bind fun _ => reads_pure _
  · exact reads_ofExcept _
  · exact (reads_tell rfl).silent_bind fun _ => reads_pure _
  · refine (reads_tellAll fun _ => not_isProgress_of_mem_ite rfl).silent_bind fun _ => ?_
    refine (reads_tellAll fun _ => not_isProgress_of_mem_ite rfl).silent_bind fun _ => ?_
    exact reads_pure _

theorem TableStore.reads_readTile [ImageCodec] [DatabaseEngine] (store : TableStore)
    (tile : TileAddress) :
    Reads [.readingTile .sqlite tile] (store.readTile tile) := by
  unfold TableStore.readTile
  refine (reads_tell_progress rfl).bind_silent fun _ => ?_
  refine (store.reads_readBlob tile).attempt.silent_bind fun found => ?_
  rcases found with fault | ⟨_ | bytes⟩
  · exact (reads_tell rfl).silent_bind fun _ => reads_pure _
  · exact reads_pure _
  · exact reads_decodeTile _ _

theorem Store.reads_readTile [ImageCodec] [DatabaseEngine] (store : Store) (tile : TileAddress) :
    Reads [.readingTile store.backend tile] (store.readTile tile) := by
  cases store with
  | disk store => exact store.reads_readTile tile
  | table store => exact store.reads_readTile tile

theorem reads_compareTiles (expected : Tile) (actual : Option Tile) :
    Reads [] (compareTiles expected actual) := by
  have hevents : ∀ e ∈ (expected.compare actual).events, e.isProgress = false := by
    intro e he
    cases hcompare : expected.compare actual with
    | absent | shapesDiffer | equal =>
        rw [hcompare] at he
        rw [List.mem_singleton.mp he]
        rfl
    | different difference count preview =>
        rw [hcompare] at he
        rcases List.mem_cons.mp he with rfl | hlisted
        · rfl
        · rcases List.mem_map.mp hlisted with ⟨_, _, rfl⟩
          rfl
  unfold compareTiles
  exact (reads_tellAll hevents).silent_bind fun _ => reads_pure _

theorem Workspace.silent_create (path : String) : TellsUpTo [] (Workspace.create path) := by
  have hsite : TellsUpTo [] (prepareSite path) := by
    unfold prepareSite
    refine (silent_inspect _).silent_bind fun site => ?_
    cases site with
    | marked => exact (silent_tell rfl).silent_bind fun _ => silent_changePartly _
    | foreign => exact silent_ofExcept _
    | vacant => exact silent_pure _
    | bare => exact silent_pure _
  unfold Workspace.create
  refine hsite.silent_bind fun _ => ?_
  refine (silent_changePartly _).silent_bind fun _ => ?_
  exact (silent_writeBytes _ _).silent_bind fun _ => silent_pure _

theorem Workspace.silent_remove (workspace : Workspace) : TellsUpTo [] workspace.remove := by
  unfold Workspace.remove
  refine (silent_changePartly _).attempt.silent_bind fun outcome => ?_
  rcases outcome with fault | _
  · split
    · exact silent_tell rfl
    · exact silent_pure _
    · exact silent_tell rfl
  · exact silent_tell rfl

namespace Scenario

theorem silent_fill [TiffCodec] (config : Config) : TellsUpTo [] (fill config) := by
  have hraster : ∀ spec : SyntheticRaster, TellsUpTo [] (spec.write config.rasterPath) := by
    intro spec
    unfold SyntheticRaster.write
    refine (silent_writeBytes _ _).silent_bind fun _ => ?_
    refine (silent_ofExcept _).silent_bind fun file => ?_
    exact (silent_writeBytes _ _).silent_bind fun _ => silent_tell rfl
  have hconfig : TellsUpTo [] config.write := by
    unfold Config.write
    refine (silent_inspect _).silent_bind fun rendered => ?_
    cases rendered with
    | error fault => exact silent_ofExcept _
    | ok text =>
        refine (silent_changePartly _).silent_bind fun _ => ?_
        refine (silent_writeBytes _ _).silent_bind fun _ => ?_
        exact (silent_tell rfl).silent_bind fun _ => silent_pure _
  unfold fill
  refine (silent_changePartly _).silent_bind fun _ => ?_
  exact (hraster _).silent_bind fun _ => hconfig

theorem silent_prepare [TiffCodec] (config : Config) : TellsUpTo [] (prepare config) := by
  unfold prepare
  refine (Workspace.silent_create _).silent_bind fun workspace => ?_
  refine (silent_fill config).attempt.silent_bind fun outcome => ?_
  cases outcome with
  | ok configFile => exact silent_pure _
  | error fault => exact (workspace.silent_remove).silent_bind fun _ => silent_ofExcept _

section

variable [TiffCodec] [ImageCodec] [DatabaseEngine]

theorem reads_verifyTile (scenario : Scenario) (store : Store) (tile : TileAddress) :
    Reads [.verifying store.backend tile, .readingTile store.backend tile]
      (scenario.verifyTile store tile) := by
  have hexpected : Reads [] (scenario.expectedTile tile) := by
    unfold expectedTile
    exact (reads_readRaster _).silent_bind fun raster => reads_expectedTile raster _ tile
  have hread : Reads [.readingTile store.backend tile] (do
      let expected ← scenario.expectedTile tile
      let actual ← store.readTile tile
      compareTiles expected actual) := by
    refine hexpected.silent_bind fun expected => ?_
    exact (store.reads_readTile tile).bind_silent fun actual => reads_compareTiles _ _
  unfold verifyTile
  exact (reads_tell_progress rfl).bind fun _ => hread

theorem reads_verifyTiles (scenario : Scenario) (store : Store) (tiles : List TileAddress) :
    Reads (tiles.flatMap fun tile =>
        [.verifying store.backend tile, .readingTile store.backend tile])
      (scenario.verifyTiles store tiles) := by
  induction tiles with
  | nil => exact reads_pure _
  | cons tile rest ih =>
      unfold verifyTiles
      rw [List.flatMap_cons]
      refine (scenario.reads_verifyTile store tile).bind fun comparison => ?_
      exact ih.bind_silent fun others => reads_pure _

end

end Scenario

theorem Invocation.silent_run [Launcher] (inv : Invocation) : TellsUpTo [] inv.run :=
  silent_of_events_eq fun _ => rfl

theorem SeedingProgram.silent_seed [Launcher] (program : SeedingProgram)
    (configFile tileset : String) (zooms : List UInt32) :
    TellsUpTo [] (program.seed configFile tileset zooms) := by
  have hconclude : ∀ finished, TellsUpTo [] (conclude finished) := by
    intro finished
    unfold conclude
    by_cases hsuccess : finished.status.isSuccess = true
    · simp only [hsuccess, if_true]
      refine (silent_tell rfl).silent_bind fun _ => ?_
      refine (silent_tellAll ?_).silent_bind fun _ => ?_
      · intro e he
        split at he
        · cases he
        · rw [List.mem_singleton.mp he]
          rfl
      · exact (silent_tell rfl).silent_bind fun _ => silent_pure _
    · simp only [hsuccess, Bool.false_eq_true, if_false]
      refine (silent_tellAll ?_).silent_bind fun _ => silent_ofExcept _
      intro e he
      simp only [List.mem_cons, List.not_mem_nil, or_false] at he
      rcases he with rfl | rfl | rfl <;> rfl
  unfold seed
  refine (silent_tell rfl).silent_bind fun _ => ?_
  refine (Invocation.silent_run _).silent_bind fun outcome => ?_
  cases outcome with
  | some finished => exact hconclude finished
  | none => exact (silent_tell rfl).silent_bind fun _ => silent_ofExcept _

end TileAudit
