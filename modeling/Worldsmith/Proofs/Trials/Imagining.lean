import Worldsmith.Proofs.Model.Membership
import Worldsmith.Proofs.Search.Refutation
import Worldsmith.Trials.Imagining

/-!
# What an engine finds

An engine finds a model only where there is one, and refuses a problem as contradictory only where
there is none. Only a search that runs out of steps says nothing.

## Main statements

* `Engine.isSolved_of_model` — what is found is a solution.
* `Engine.not_satisfiable_of_model` — what is refused has no solution.
-/

namespace Worldsmith

theorem Model.IsSolved.satisfiable {m : Model} (solved : m.IsSolved) :
    m.blueprint.problem.Satisfiable :=
  ⟨m.solution.holds, solved⟩

namespace Engine

variable {engine : Engine} {blueprint : Blueprint} {m : Model}

theorem fst_model (engine : Engine) (blueprint : Blueprint) : (engine.model blueprint).1 =
    (blueprint.problem.solve Stream.chooser engine.maxSteps engine.stream).1.map
      fun solution => ⟨blueprint, solution⟩ := rfl

theorem isSolved_of_model (built : blueprint.problem.Built)
    (found : (engine.model blueprint).1 = .ok m) : m.blueprint = blueprint ∧ m.IsSolved := by
  rw [fst_model] at found
  generalize outcome : blueprint.problem.solve Stream.chooser engine.maxSteps engine.stream =
    result at found
  obtain ⟨_ | solution, stream⟩ := result
  · cases found
  · cases found
    exact ⟨rfl, (built.scoped.satisfiedBy_of_solve outcome).1⟩

theorem not_satisfiable_of_model (built : blueprint.problem.Built)
    (refuted : (engine.model blueprint).1 = .error .contradiction) :
    ¬blueprint.problem.Satisfiable := by
  rintro ⟨v, met⟩
  have search := Problem.search_ne_contradiction built.scoped met Stream.chooser engine.maxSteps
    engine.stream
  rw [fst_model] at refuted
  unfold Problem.solve at refuted
  generalize Problem.search _ _ _ _ = outcome at search refuted
  obtain ⟨_ | _ | _, stream⟩ := outcome
  · cases refuted
  · exact search rfl
  · cases refuted

end Engine

end Worldsmith
