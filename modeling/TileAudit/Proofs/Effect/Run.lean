import TileAudit.Effect

/-!
# Running effects

What running a step gives, for each way of building a step. A sequence stops at its first
fault, and a sequence that ends well has run all of its steps.
-/

namespace TileAudit
namespace Effect

section

variable {α β : Type} {w w' : World}

theorem run_bind (step : Effect α) (next : α → Effect β) (w : World) :
    run (step >>= next) w =
      match run step w with
      | (.ok a, w') => run (next a) w'
      | (.error fault, w') => (.error fault, w') := by
  show (ExceptT.bind step next) w = _
  unfold ExceptT.bind ExceptT.mk run
  show (StateT.bind step _) w = _
  unfold StateT.bind
  rcases step w with ⟨outcome, w'⟩
  cases outcome with
  | ok a => rfl
  | error fault => rfl

@[simp]
theorem run_pure (a : α) (w : World) : run (pure a : Effect α) w = (.ok a, w) := rfl

theorem run_bind_of_ok {step : Effect α} {a : α} (h : run step w = (.ok a, w'))
    (next : α → Effect β) : run (step >>= next) w = run (next a) w' := by
  rw [run_bind, h]

theorem run_bind_of_error {step : Effect α} {fault : Fault} (h : run step w = (.error fault, w'))
    (next : α → Effect β) : run (step >>= next) w = (.error fault, w') := by
  rw [run_bind, h]

theorem exists_of_run_bind_ok {step : Effect α} {next : α → Effect β} {b : β}
    (h : run (step >>= next) w = (.ok b, w')) :
    ∃ a middle, run step w = (.ok a, middle) ∧ run (next a) middle = (.ok b, w') := by
  rw [run_bind] at h
  rcases hstep : run step w with ⟨outcome, middle⟩
  rw [hstep] at h
  cases outcome with
  | ok a => exact ⟨a, middle, rfl, h⟩
  | error fault => cases h

end

@[simp]
theorem run_tell (event : Event) (w : World) :
    run (tell event) w = (.ok (), { w with events := w.events ++ [event] }) := rfl

@[simp]
theorem run_ofExcept {α : Type} (value : Except Fault α) (w : World) :
    run (ofExcept value) w = (value, w) := rfl

@[simp]
theorem run_inspect {α : Type} (f : FileTree → Location → α) (w : World) :
    run (inspect f) w = (.ok (f w.tree w.cwd), w) := rfl

theorem run_attempt {α : Type} (step : Effect α) (w : World) :
    run (attempt step) w = (.ok (run step w).1, (run step w).2) := rfl

theorem run_thenAlways {α : Type} (step : Effect α) (last : Effect Unit) (w : World) :
    run (thenAlways step last) w = ((run step w).1, (run last (run step w).2).2) := rfl

section

variable {w : World} {path : String} {t : FileTree}

theorem run_writeBytes_of_ok {bytes : ByteArray}
    (h : w.tree.writeContent w.cwd path (.bytes bytes) = .ok t) :
    run (writeBytes path bytes) w = (.ok (), { w with tree := t }) := by
  simp only [run, writeBytes, change, h]

theorem run_writeBytes_of_error {bytes : ByteArray} {kind : IoKind}
    (h : w.tree.writeContent w.cwd path (.bytes bytes) = .error kind) :
    run (writeBytes path bytes) w = (.error (Fault.ofIo kind), w) := by
  simp only [run, writeBytes, change, h]

theorem exists_of_run_writeBytes_ok {bytes : ByteArray} {w' : World}
    (h : run (writeBytes path bytes) w = (.ok (), w')) :
    ∃ t, w.tree.writeContent w.cwd path (.bytes bytes) = .ok t ∧ w' = { w with tree := t } := by
  cases hwrite : w.tree.writeContent w.cwd path (.bytes bytes) with
  | ok t =>
      rw [run_writeBytes_of_ok hwrite] at h
      cases h
      exact ⟨t, rfl, rfl⟩
  | error kind =>
      rw [run_writeBytes_of_error hwrite] at h
      cases h

theorem run_changePartly (f : FileTree → Location → FileTree × Except IoKind Unit) (w : World) :
    run (changePartly f) w =
      (ofIo (f w.tree w.cwd).2, { w with tree := (f w.tree w.cwd).1 }) := rfl

theorem run_makeDirectories (path : String) (w : World) :
    run (makeDirectories path) w =
      (ofIo (w.tree.makeDirectories w.cwd path).2,
        { w with tree := (w.tree.makeDirectories w.cwd path).1 }) :=
  run_changePartly _ w

theorem run_makeParents (path : String) (w : World) :
    run (makeParents path) w =
      (ofIo (w.tree.makeParents w.cwd path).2,
        { w with tree := (w.tree.makeParents w.cwd path).1 }) :=
  run_changePartly _ w

theorem run_removeDirectory (path : String) (w : World) :
    run (removeDirectory path) w =
      (ofIo (w.tree.removeDirectory w.cwd path).2,
        { w with tree := (w.tree.removeDirectory w.cwd path).1 }) :=
  run_changePartly _ w

end

end Effect
end TileAudit
