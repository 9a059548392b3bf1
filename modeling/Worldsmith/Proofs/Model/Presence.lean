import Worldsmith.Proofs.Model.Membership

/-!
# What exists in a model

The parts of a being are made for all that it could turn out to be, and they stay when it turns out
to be something else. What exists are the individuals of the world, what was requested, and the
parts that go with what their containers turned out to be. Relations are made between all beings,
so one that holds may be about a part that nothing has. There is no such part where the containers
were declared to be what they have to be.

## Main definitions

* `Model.IsPresent` — a being exists.
* `Blueprint.IsSettled` — it was declared that all that a being is within has such a part.

## Main statements

* `Model.isPresent_of_isSettled` — whatever is settled exists in every solution.
* `Model.isPresent_of_solve` — so it does in whatever is found for a request.
-/

namespace Worldsmith

/-- Whether a being is no part, or a part that a declared kind of its container has, where the
container is settled as well. -/
inductive Blueprint.IsSettled (b : Blueprint) : Nat → Prop where
  | permanent {i : Nat} (known : (b.being i).permanent ≠ none) : IsSettled b i
  | requested {i : Nat} (mem : i ∈ b.requested) : IsSettled b i
  | part {i container : Nat} {part : Id .part} {kind : Id .kind}
      (inside : (b.being i).container = some (container, part)) (settled : IsSettled b container)
      (declared : kind ∈ (b.being container).kinds)
      (below : b.world.Below kind (b.world.part part).owner) : IsSettled b i

namespace Model

variable {m : Model} {i : Nat}

/-- Whether a being is an individual of the world, was requested, or is a part of a present being
that turned out to be of the kind whose part it is. -/
inductive IsPresent (m : Model) : Nat → Prop where
  | permanent {i : Nat} (known : (m.being i).permanent ≠ none) : IsPresent m i
  | requested {i : Nat} (mem : i ∈ m.blueprint.requested) : IsPresent m i
  | part {i container : Nat} {part : Id .part}
      (inside : (m.being i).container = some (container, part)) (present : IsPresent m container)
      (isOwner : m.isOf container (m.world.part part).owner = true) : IsPresent m i

theorem lt_size_of_mem_kinds {kind : Id .kind} (declared : kind ∈ (m.being i).kinds) :
    i < m.size := by
  by_contra outside
  rw [Model.being, Blueprint.being_of_size_le (Nat.le_of_not_lt outside)] at declared
  cases declared

/-- Whatever is settled exists in every solution. -/
theorem isPresent_of_isSettled (complete : m.blueprint.Complete) (solved : m.IsSolved)
    (settled : m.blueprint.IsSettled i) : m.IsPresent i := by
  induction settled with
  | permanent known => exact .permanent known
  | requested mem => exact .requested mem
  | part inside _ declared below ih =>
    refine .part inside ih ?_
    exact isOf_of_below complete solved (lt_size_of_mem_kinds declared) declared below

/-- In whatever is found for a request everything that is settled exists. A relation between two
such beings is about nothing else. -/
theorem isPresent_of_solve {σ : Type} {world : World} {request : Request} {chooser : Chooser σ}
    {budget : Nat} {source source' : σ} {solution : Solution}
    (solved : (Blueprint.ofRequest world request).problem.solve chooser budget source =
      (.ok solution, source'))
    (settled : (Blueprint.ofRequest world request).IsSettled i) :
    IsPresent ⟨.ofRequest world request, solution⟩ i := by
  have complete := (Blueprint.complete_ofRequest world request).1
  have met := (complete.valid.built.scoped.satisfiedBy_of_solve solved).1
  exact isPresent_of_isSettled complete met settled

end Model

end Worldsmith
