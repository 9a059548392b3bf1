import Worldsmith.Model.Description
import Worldsmith.Search.Engine

/-!
# Imagining

A request is made into a problem and the problem solved.
-/

namespace Worldsmith

/-- Find a model of a blueprint. -/
def Engine.model (engine : Engine) (blueprint : Blueprint) :
    Except SearchFailure Model × Engine :=
  let (result, engine) := engine.solve blueprint.problem
  (result.map fun solution => ⟨blueprint, solution⟩, engine)

end Worldsmith
