import TileAudit.Proofs.Effect.Run
import TileAudit.Scenario

/-!
# What a step keeps

A step keeps a property of the file tree and the working directory when the property holds after the
step wherever it held before, however the step ends. A step made of steps that keep a property keeps
it, and seeding keeps what running the program keeps.
-/

namespace TileAudit

/-- A step after which a property holds wherever it held before, however the step ends. -/
def Effect.Keeps {α : Type} (property : FileTree → Location → Prop) (step : Effect α) : Prop :=
  ∀ w : World, property w.tree w.cwd →
    property (Effect.run step w).2.tree (Effect.run step w).2.cwd

variable {property : FileTree → Location → Prop}

namespace Effect

variable {α β : Type}

theorem Keeps.bind {step : Effect α} {next : α → Effect β} (h : Keeps property step)
    (hnext : ∀ a, Keeps property (next a)) : Keeps property (step >>= next) := by
  intro w hw
  have hmiddle := h w hw
  rw [run_bind]
  rcases hrun : run step w with ⟨outcome, middle⟩
  rw [hrun] at hmiddle
  cases outcome with
  | error fault => exact hmiddle
  | ok a => exact hnext a middle hmiddle

theorem keeps_pure (a : α) : Keeps property (pure a : Effect α) :=
  fun _ h => h

theorem keeps_tell (event : Event) : Keeps property (tell event) :=
  fun _ h => h

theorem keeps_tellAll (events : List Event) : Keeps property (tellAll events) :=
  fun _ h => h

theorem keeps_ofExcept (value : Except Fault α) : Keeps property (ofExcept value) :=
  fun _ h => h

theorem keeps_inspect (f : FileTree → Location → α) : Keeps property (inspect f) :=
  fun _ h => h

theorem Keeps.attempt {step : Effect α} (h : Keeps property step) :
    Keeps property (attempt step) := by
  intro w hw
  rw [run_attempt]
  exact h w hw

end Effect

open Effect

theorem Invocation.keeps_cwd [Launcher] (inv : Invocation) (cwd : Location) :
    Keeps (fun _ here => here = cwd) inv.run :=
  fun _ h => h

theorem SeedingProgram.keeps_conclude (finished : Finished) :
    Keeps property (SeedingProgram.conclude finished) := by
  unfold SeedingProgram.conclude
  by_cases hsuccess : finished.status.isSuccess = true
  · simp only [hsuccess, if_true]
    refine Keeps.bind (keeps_tell _) fun _ => ?_
    refine Keeps.bind (keeps_tellAll _) fun _ => ?_
    refine Keeps.bind (keeps_tell _) fun _ => ?_
    exact keeps_pure _
  · simp only [hsuccess, Bool.false_eq_true, if_false]
    refine Keeps.bind (keeps_tellAll _) fun _ => ?_
    exact keeps_ofExcept _

theorem SeedingProgram.keeps_seed [Launcher] {program : SeedingProgram} {configFile tileset : String}
    {zooms : List UInt32}
    (h : Keeps property (program.invocation configFile tileset zooms).run) :
    Keeps property (program.seed configFile tileset zooms) := by
  unfold SeedingProgram.seed
  refine Keeps.bind (keeps_tell _) fun _ => ?_
  refine Keeps.bind h fun outcome => ?_
  cases outcome with
  | some finished => exact keeps_conclude finished
  | none =>
      refine Keeps.bind (keeps_tell _) fun _ => ?_
      exact keeps_ofExcept _

/-!
## What a seeding program starts

One program is started for a call of the seeder. The call ends well when the program ends with
success in time, and what the program leaves in the file tree stays.
-/

namespace SeedingProgram

theorem run_conclude (finished : Finished) (w : World) :
    (run (conclude finished) w).2.tree = w.tree ∧
      ((∃ output, (run (conclude finished) w).1 = .ok output) ↔
        finished.status.isSuccess = true) := by
  unfold conclude
  by_cases hsuccess : finished.status.isSuccess = true
  · simp only [hsuccess, if_true]
    exact ⟨rfl, iff_of_true ⟨_, rfl⟩ trivial⟩
  · simp only [hsuccess, Bool.false_eq_true, if_false]
    refine ⟨rfl, iff_of_false ?_ id⟩
    rintro ⟨output, houtput⟩
    cases houtput

theorem run_seed [Launcher] (program : SeedingProgram) (configFile tileset : String)
    (zooms : List UInt32) (w : World) :
    (run (program.seed configFile tileset zooms) w).2.tree =
        (Launcher.launch (program.invocation configFile tileset zooms) w.tree w.cwd).1 ∧
      ((∃ output, (run (program.seed configFile tileset zooms) w).1 = .ok output) ↔
        ∃ finished,
          (Launcher.launch (program.invocation configFile tileset zooms) w.tree w.cwd).2 =
            .ok (some finished) ∧ finished.status.isSuccess = true) := by
  rcases hlaunch : Launcher.launch (program.invocation configFile tileset zooms) w.tree w.cwd with
    ⟨tree, outcome⟩
  let told : World := { w with events := w.events ++ [.startingSeeder program.program] }
  have hstart : run (program.invocation configFile tileset zooms).run told =
      (ofIo outcome, { told with tree := tree }) := by
    unfold run Invocation.run
    simp only [told, hlaunch]
  unfold seed
  rw [run_bind_of_ok (run_tell _ w), run_bind, hstart]
  cases outcome with
  | error kind =>
      refine ⟨rfl, iff_of_false ?_ ?_⟩
      · rintro ⟨output, houtput⟩
        cases houtput
      · rintro ⟨finished, hfinished, _⟩
        cases hfinished
  | ok found =>
      cases found with
      | none =>
          refine ⟨rfl, iff_of_false ?_ ?_⟩
          · rintro ⟨output, houtput⟩
            cases houtput
          · rintro ⟨finished, hfinished, _⟩
            cases hfinished
      | some finished =>
          rcases run_conclude finished { told with tree := tree } with ⟨htree, hok⟩
          refine ⟨htree, hok.trans ?_⟩
          constructor
          · intro hsuccess
            exact ⟨finished, rfl, hsuccess⟩
          · rintro ⟨other, hother, hsuccess⟩
            cases hother
            exact hsuccess

end SeedingProgram

end TileAudit
