import TileAudit.Proofs.Effect.Run

/-!
# Steps in turn

A list of steps is run one after the other, up to the first that fails. Either all of them end well,
or there is a first that does not: those before it have ended well, and those after it are not run.
-/

namespace TileAudit
namespace Effect

variable {α β : Type} {step : α → Effect β} {w w' : World}

/-- Steps that end well one after the other, each in the world that the one before it left: what
was asked of each, and what came of it. -/
inductive Performs (step : α → Effect β) : World → List (α × β) → World → Prop where
  | nil (w : World) : Performs step w [] w
  | cons {w middle w' : World} {a : α} {b : β} {rest : List (α × β)} :
      run (step a) w = (.ok b, middle) → Performs step middle rest w' →
        Performs step w ((a, b) :: rest) w'

structure Completes (step : α → Effect β) (w : World) (tasks : List α) (done : List (α × β))
    (last : World) : Prop where
  performs : Performs step w done last
  tasks_eq : done.map Prod.fst = tasks

inductive Stops (step : α → Effect β) (w : World) (tasks : List α) (done : List (α × β)) (a : α)
    (fault : Fault) (last : World) : Prop where
  | intro {middle : World} {rest : List α} :
      Performs step w done middle → run (step a) middle = (.error fault, last) →
        tasks = done.map Prod.fst ++ a :: rest → Stops step w tasks done a fault last

theorem run_mapM_cons (a : α) (rest : List α) (w : World) :
    run ((a :: rest).mapM step) w =
      match run (step a) w with
      | (.ok b, middle) =>
          match run (rest.mapM step) middle with
          | (.ok bs, w') => (.ok (b :: bs), w')
          | (.error fault, w') => (.error fault, w')
      | (.error fault, middle) => (.error fault, middle) := by
  rw [List.mapM_cons, run_bind]
  rcases run (step a) w with ⟨outcome, middle⟩
  cases outcome with
  | error fault => rfl
  | ok b =>
      dsimp only
      rw [run_bind]
      rcases run (rest.mapM step) middle with ⟨outcome, w'⟩
      cases outcome with
      | error fault => rfl
      | ok bs => rfl

theorem completes_or_stops (step : α → Effect β) (tasks : List α) (w : World) :
    (∃ done last, Completes step w tasks done last) ∨
      ∃ done a fault last, Stops step w tasks done a fault last := by
  induction tasks generalizing w with
  | nil => exact Or.inl ⟨[], w, Performs.nil w, rfl⟩
  | cons a rest ih =>
      rcases hstep : run (step a) w with ⟨outcome, middle⟩
      cases outcome with
      | error fault => exact Or.inr ⟨[], a, fault, middle, .intro (.nil w) hstep rfl⟩
      | ok b =>
          rcases ih middle with ⟨done, last, hdone⟩ | ⟨done, c, fault, last, hstops⟩
          · refine Or.inl ⟨(a, b) :: done, last, .cons hstep hdone.performs, ?_⟩
            rw [List.map_cons, hdone.tasks_eq]
          · rcases hstops with @⟨_, others, hperforms, hfault, htasks⟩
            have htasks' : a :: rest = ((a, b) :: done).map Prod.fst ++ c :: others := by
              rw [htasks]
              rfl
            exact Or.inr ⟨_, c, fault, last, .intro (.cons hstep hperforms) hfault htasks'⟩

theorem Performs.run_mapM {done : List (α × β)} (h : Performs step w done w') :
    run ((done.map Prod.fst).mapM step) w = (.ok (done.map Prod.snd), w') := by
  induction h with
  | nil w => rfl
  | cons hstep _ ih =>
      rw [List.map_cons, run_mapM_cons, hstep]
      dsimp only
      rw [ih]
      rfl

theorem Completes.run_mapM {tasks : List α} {done : List (α × β)}
    (h : Completes step w tasks done w') :
    run (tasks.mapM step) w = (.ok (done.map Prod.snd), w') := by
  rw [← h.tasks_eq]
  exact h.performs.run_mapM

theorem Stops.run_mapM {tasks : List α} {done : List (α × β)} {a : α} {fault : Fault}
    (h : Stops step w tasks done a fault w') : run (tasks.mapM step) w = (.error fault, w') := by
  rcases h with ⟨hperforms, hfault, htasks⟩
  rw [htasks]
  clear htasks
  induction hperforms with
  | nil w =>
      rw [List.map_nil, List.nil_append, run_mapM_cons, hfault]
  | cons hstep _ ih =>
      rw [List.map_cons, List.cons_append, run_mapM_cons, hstep]
      dsimp only
      rw [ih hfault]

theorem Completes.isPrefix {tasks : List α} {done : List (α × β)}
    (h : Completes step w tasks done w') : done.map Prod.fst <+: tasks :=
  ⟨[], by rw [List.append_nil, h.tasks_eq]⟩

theorem Stops.isPrefix {tasks : List α} {done : List (α × β)} {a : α} {fault : Fault}
    (h : Stops step w tasks done a fault w') : done.map Prod.fst ++ [a] <+: tasks := by
  rcases h with @⟨_, rest, _, _, htasks⟩
  exact ⟨rest, by rw [htasks, List.append_assoc, List.singleton_append]⟩

end Effect
end TileAudit
