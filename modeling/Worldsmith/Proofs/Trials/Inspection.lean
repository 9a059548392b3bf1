import Worldsmith.Proofs.Trials.Imagining
import Worldsmith.Trials.Inspection

/-!
# Verdicts on what is expected

An inspection comes to one finding for each expectation, in the order in which they were stated.
The engine goes on from search to search, so the verdict on an expectation may depend on those
before it, but only by whether its search runs out of steps: what passes is so.

## Main definitions

* `Expectation.blueprint` — what is searched for an expectation.
* `Expectation.IsMet` — what is expected to exist can exist, what is not cannot.
* `Inspection.verdicts` — the findings of one search after another.

## Main statements

* `Inspection.steps_eq` — steps find what searches say of the next expectations.
* `Inspection.findings_run` — a run finds one thing for each expectation, and what passes is met.
-/

namespace Worldsmith

namespace Expectation

/-- What is to be solved for an expectation: one individual of its kind that it describes. -/
def blueprint (expectation : Expectation) (world : World) : Blueprint :=
  .ofRequest world ⟨expectation.kind, expectation.modifiers, 1⟩

/-- Whether there is a solution just if there is to be one. -/
def IsMet (expectation : Expectation) (world : World) : Prop :=
  (expectation.blueprint world).problem.Satisfiable ↔ expectation.shouldExist = true

theorem built_blueprint (expectation : Expectation) (world : World) :
    (expectation.blueprint world).problem.Built :=
  (Blueprint.complete_ofRequest world _).1.valid.built

end Expectation

namespace Inspection

variable {world : World} {expectation : Expectation} {engine : Engine}

/-! ## One finding -/

theorem text_judge (expectation : Expectation) (result : Except SearchFailure Model) :
    (judge expectation result).text = expectation.text := by
  unfold judge
  cases expectation.shouldExist <;> rcases result with (_ | _) | _ <;> rfl

/-- What is to exist has to be found, and what is not to exist has to be refuted. -/
theorem passed_judge_iff (expectation : Expectation) (result : Except SearchFailure Model) :
    (judge expectation result).passed = true ↔
      expectation.shouldExist = true ∧ (∃ m, result = .ok m) ∨
        expectation.shouldExist = false ∧ result = .error .contradiction := by
  unfold judge
  cases expectation.shouldExist <;> rcases result with (_ | _) | _ <;> simp

theorem not_passed_judge_timeout (expectation : Expectation) (budget : Nat) :
    (judge expectation (.error (.timeout budget))).passed = false := by
  rw [← Bool.not_eq_true, passed_judge_iff]
  simp

/-- What a search says of an expectation, unless it runs out of steps, is whether it is met. -/
theorem passed_judge_model_iff
    (ended : ∀ budget, (engine.model (expectation.blueprint world)).1 ≠ .error (.timeout budget)) :
    (judge expectation (engine.model (expectation.blueprint world)).1).passed = true ↔
      expectation.IsMet world := by
  have built := expectation.built_blueprint world
  rw [passed_judge_iff, Expectation.IsMet]
  rcases outcome : (engine.model (expectation.blueprint world)).1 with (_ | budget) | m
  · simp [Engine.not_satisfiable_of_model built outcome]
  · exact absurd outcome (ended budget)
  · obtain ⟨same, solved⟩ := Engine.isSolved_of_model built outcome
    simp [← same, solved.satisfiable]

theorem isMet_of_passed
    (passed : (judge expectation (engine.model (expectation.blueprint world)).1).passed = true) :
    expectation.IsMet world := by
  refine (passed_judge_model_iff fun budget out => ?_).mp passed
  rw [out, not_passed_judge_timeout] at passed
  cases passed

/-! ## Findings in order -/

/-- What searches say of expectations, one after another. -/
def verdicts (world : World) : Engine → List Expectation → List Finding
  | _, [] => []
  | engine, expectation :: rest =>
    let (result, engine) := engine.model (expectation.blueprint world)
    judge expectation result :: verdicts world engine rest

/-- The engine after searches for expectations, one after another. -/
def engineAfter (world : World) (engine : Engine) (expectations : List Expectation) : Engine :=
  expectations.foldl (fun engine expectation => (engine.model (expectation.blueprint world)).2)
    engine

theorem length_verdicts (engine : Engine) (expectations : List Expectation) :
    (verdicts world engine expectations).length = expectations.length := by
  induction expectations generalizing engine with
  | nil => rfl
  | cons expectation rest ih => exact congrArg (· + 1) (ih _)

/-- Each verdict is about the expectation in its place. -/
theorem getElem?_verdicts (engine : Engine) (expectations : List Expectation) (i : Nat) :
    (verdicts world engine expectations)[i]? = expectations[i]?.map fun expectation =>
      judge expectation ((engineAfter world engine (expectations.take i)).model
        (expectation.blueprint world)).1 := by
  induction expectations generalizing engine i with
  | nil => rfl
  | cons expectation rest ih =>
    cases i with
    | zero => rfl
    | succ i => exact ih (engine.model (expectation.blueprint world)).2 i

/-- The expectations that have not been checked. -/
def pending (inspection : Inspection) : List Expectation :=
  inspection.world.expectations.toList.drop inspection.findings.length

theorem head?_pending {inspection : Inspection} : inspection.pending.head? =
    inspection.world.expectations[inspection.findings.length]? := by
  rw [pending, List.head?_drop, Array.getElem?_toList]

theorem step_of_pending (engine : Engine) {inspection : Inspection} {rest : List Expectation}
    (pending : inspection.pending = expectation :: rest) :
    let search := engine.model (expectation.blueprint inspection.world)
    let after : Inspection :=
      { inspection with findings := inspection.findings ++ [judge expectation search.1] }
    inspection.step engine = (after, search.2) ∧ after.pending = rest := by
  refine ⟨?_, ?_⟩
  · rw [step, ← head?_pending, pending]
    rfl
  · unfold Inspection.pending at pending ⊢
    dsimp only
    rw [List.length_append, ← List.drop_drop, pending]
    rfl

theorem step_of_done {inspection : Inspection} (done : inspection.pending = []) :
    inspection.step engine = (inspection, engine) := by
  rw [step, ← head?_pending, done]
  rfl

/-- Steps find what searches say of the next expectations. -/
theorem steps_eq (count : Nat) (inspection : Inspection) (engine : Engine) :
    (steps count inspection engine).1 = { inspection with
      findings := inspection.findings ++
        verdicts inspection.world engine (inspection.pending.take count) } := by
  induction count generalizing inspection engine with
  | zero => simp [steps, verdicts]
  | succ count ih =>
    rw [steps]
    cases pending : inspection.pending with
    | nil =>
      rw [step_of_done pending]
      simp [ih, pending, verdicts]
    | cons expectation rest =>
      obtain ⟨step, left⟩ := step_of_pending engine pending
      rw [step]
      simp [ih, left, verdicts]

/-- A run comes to one finding for each expectation, in order. One that passes is met, whatever
was searched for before, and one whose search runs out of steps does not pass. -/
theorem findings_run (world : World) (engine : Engine) :
    let findings := ((start world).run engine).1.findings
    findings.length = world.expectations.size ∧
      ∀ i expectation, world.expectations[i]? = some expectation →
        let search := (engineAfter world engine (world.expectations.toList.take i)).model
          (expectation.blueprint world)
        ∃ finding, findings[i]? = some finding ∧ finding.text = expectation.text ∧
          (finding.passed = true → expectation.IsMet world) ∧
          (∀ budget, search.1 = .error (.timeout budget) → finding.passed = false) ∧
          ((∀ budget, search.1 ≠ .error (.timeout budget)) →
            (finding.passed = true ↔ expectation.IsMet world)) := by
  have run : ((start world).run engine).1.findings =
      verdicts world engine world.expectations.toList := by
    simp [run, steps_eq, start, pending, List.take_of_length_le]
  dsimp only
  rw [run]
  refine ⟨by rw [length_verdicts, Array.length_toList], fun i expectation stated => ?_⟩
  refine ⟨_, ?_, text_judge _ _, isMet_of_passed, ?_, passed_judge_model_iff⟩
  · rw [getElem?_verdicts, Array.getElem?_toList, stated]
    rfl
  · intro budget out
    rw [out, not_passed_judge_timeout]

end Inspection

end Worldsmith
