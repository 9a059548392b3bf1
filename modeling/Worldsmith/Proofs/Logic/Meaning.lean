import Worldsmith.Proofs.Lists
import Worldsmith.Proofs.Logic.Building
import Worldsmith.Proofs.Logic.Satisfaction

/-!
# Truth by name

What a proposition is about is told by its name. When names are given truth values, so are the
propositions of every problem, also of one that is still being built: a problem that is met goes on
being met as long as each constraint that is added is.

## Main definitions

* `Problem.valuation` — the truth values of propositions whose names have truth values.
* `Problem.MetBy` — all constraints of a problem are met when names have some truth values.
-/

namespace Worldsmith

/-- Whether a constraint holds depends only on the values of its own propositions. -/
theorem Constraint.holds_congr {constraint : Constraint} {v w : Valuation}
    (same : ∀ p ∈ constraint.propositions, v p = w p) :
    constraint.holds v.satisfies = constraint.holds w.satisfies := by
  have literals : ∀ l ∈ constraint.guard.toList ++ constraint.literals,
      v.satisfies l = w.satisfies l := by
    intro l hl
    rw [Valuation.satisfies, Valuation.satisfies, same _ (List.mem_map_of_mem hl)]
  have count : constraint.literals.countP v.satisfies = constraint.literals.countP w.satisfies :=
    List.countP_congr fun l hl => by rw [literals l (List.mem_append_right _ hl)]
  rw [holds, holds, count]
  cases guarded : constraint.guard with
  | none => rfl
  | some guard => simp [literals guard (by simp [guarded])]

namespace Problem

variable {problem later : Problem} {p : Proposition} {l : Literal} {name : String}
  {truth : String → Bool}

/-- The truth values of propositions when their names have truth values. -/
def valuation (problem : Problem) (truth : String → Bool) : Valuation :=
  fun p => (problem.name? p).any truth

/-- Whether all constraints are met when names have some truth values. -/
def MetBy (problem : Problem) (truth : String → Bool) : Prop :=
  problem.SatisfiedBy (problem.valuation truth)

theorem valuation_of_name? (known : problem.name? p = some name) :
    problem.valuation truth p = truth name := by
  rw [valuation, known, Option.any_some]

theorem MetBy.satisfiable (met : problem.MetBy truth) : problem.Satisfiable := ⟨_, met⟩

theorem metBy_empty (truth : String → Bool) : empty.MetBy truth := by
  simp [MetBy, SatisfiedBy, empty]

theorem Extends.valuation_eq (h : problem.Extends later) (own : problem.Has p) :
    later.valuation truth p = problem.valuation truth p := by
  obtain ⟨name, known⟩ := has_iff.mp own
  rw [valuation_of_name? known, valuation_of_name? (h.name?_eq_some known)]

/-- A problem that only comes to have more propositions is still met. -/
theorem MetBy.of_constraints_eq (met : problem.MetBy truth) (inside : problem.Scoped)
    (grows : problem.Extends later) (same : later.constraints = problem.constraints) :
    later.MetBy truth := by
  intro constraint mem
  rw [same] at mem
  rw [← met constraint mem]
  exact Constraint.holds_congr fun p hp =>
    grows.valuation_eq (inside.constraints constraint mem p hp)

theorem MetBy.proposition (met : problem.MetBy truth) (inside : problem.Scoped) (name : String) :
    (problem.proposition name).2.MetBy truth :=
  met.of_constraints_eq inside (extends_proposition problem name) rfl

theorem MetBy.add (met : problem.MetBy truth) {constraint : Constraint}
    (holds : constraint.holds (problem.valuation truth).satisfies = true) :
    (problem.add constraint).MetBy truth := by
  intro other mem
  rcases mem_constraints_add.mp mem with mem | rfl
  · exact met other mem
  · exact holds

theorem MetBy.clause (met : problem.MetBy truth) {literals : List Literal} (mem : l ∈ literals)
    (holds : (problem.valuation truth).satisfies l = true) :
    (problem.clause literals).MetBy truth :=
  met.add (Constraint.holds_clause_iff.mpr ⟨l, List.mem_eraseDups.mpr mem, holds⟩)

end Problem

end Worldsmith
