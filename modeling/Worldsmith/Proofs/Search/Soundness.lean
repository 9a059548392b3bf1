import Mathlib
import Worldsmith.Proofs.Logic.Building
import Worldsmith.Proofs.Search.Descent
import Worldsmith.Search.Engine

/-!
# Solutions satisfy their problem

A search that finds a solution has given every proposition a value itself, and the values meet all
constraints. This holds whatever the order of decisions, the values tried first and the budget.
-/

namespace Worldsmith

/-- Choices that leave nothing open: propositions in order, true first, and the lower bound. -/
def Chooser.steady : Chooser Unit where
  order propositions source := (propositions, source)
  polarity _ source := (true, source)
  number low _ source := (low, source)
  order_perm _ _ := .rfl

variable {σ : Type} {constraints : List Constraint} {occurrences : Occurrences}
  {order pending : List Proposition} {stack : List Decision} {trail found : Trail}
  {left spare : Nat}

/-- A descent that succeeds gives everything a value and ends on a quiet trail. -/
theorem quietOn_of_descend (prior : Proposition → Float) (draw : Float → σ → Bool × σ)
    (source : σ) (index : occurrences.Indexes trail.values.size constraints)
    (reached : Reached constraints order stack pending trail)
    (h : (descend occurrences prior draw order left stack pending trail source).1 =
      .found found spare) :
    found.QuietOn constraints ∧ found.values.size = trail.values.size ∧
      ∀ p ∈ order, (found.at? p).isSome = true := by
  fun_induction descend occurrences prior draw order left stack pending trail source with
  | case1 left stack pending trail source done =>
    cases h
    exact ⟨reached.quiet, rfl, fun p hp => reached.finished done hp⟩
  | case2 left stack pending trail source p rest next value source' drawn decision after left'
      pursued _ ih =>
    have reached' := reached.advance index next pursued
    have size := size_of_grows_assign (decision.grows_pursue index pursued (by simp))
    rw [← size] at index ⊢
    exact ih index reached' h
  | case3 left stack pending trail source p rest next value source' drawn decision after left'
      pursued last stack' resumed retreated _ ih =>
    obtain ⟨reached', size⟩ := reached.resume index next pursued retreated
    rw [← size] at index ⊢
    exact ih index reached' h
  | case4 => cases h
  | case5 => cases h
  | case6 => cases h

namespace Problem

variable {problem : Problem}

theorem Scoped.indexes (h : problem.Scoped) :
    problem.occurrences.Indexes problem.size problem.constraints.toList :=
  Occurrences.indexes_ofConstraints h.constraints

theorem mem_propositions {p : Proposition} : p ∈ problem.propositions ↔ problem.Has p := by
  obtain ⟨i⟩ := p
  simp [propositions, Has]

theorem size_blank (count : Nat) : (Trail.blank count).values.size = count := by
  simp [Trail.blank]

/-- Where the first propagation comes to rest, a descent can begin. -/
theorem reached_of_settle (h : problem.Scoped) {budget : Nat} (order : List Proposition)
    (perm : order.Perm problem.propositions)
    (settled : problem.settle budget = ⟨.quiet, trail, left⟩) :
    Reached problem.constraints.toList order [] order trail ∧
      trail.values.size = problem.size := by
  have index := h.indexes
  rw [← size_blank problem.size] at index
  have grows := grows_propagate index budget [] (fun _ => id)
  have quiet := quietOn_propagate index (fun _ => id) (fun c hc => .inr (.inl hc))
    (congrArg Progress.verdict settled)
  rw [settle] at settled
  rw [settled] at grows quiet
  have size : trail.values.size = problem.size := grows.size_eq.trans (size_blank _)
  refine ⟨⟨.bottom trail, quiet, ?_, fun _ => id, fun _ => .inl⟩, size⟩
  intro p hp
  rw [size]
  exact mem_propositions.mp (perm.mem_iff.mp hp)

/-- A search that succeeds gives all propositions values and ends on a quiet trail. -/
theorem quietOn_of_search (h : problem.Scoped) {chooser : Chooser σ} {budget : Nat} {source : σ}
    (success : (problem.search chooser budget source).1 = .found found spare) :
    found.QuietOn problem.constraints.toList ∧
      ∀ p, problem.Has p → (found.at? p).isSome = true := by
  unfold search at success
  split at success
  · cases success
  · cases success
  case h_3 trail left settled =>
    have perm := chooser.order_perm problem.propositions source
    obtain ⟨reached, size⟩ := reached_of_settle h _ perm settled
    have index := h.indexes
    rw [← size] at index
    obtain ⟨quiet, -, known⟩ := quietOn_of_descend _ _ _ index reached success
    exact ⟨quiet, fun p own => known p (perm.mem_iff.mpr (mem_propositions.mpr own))⟩

end Problem

theorem Trail.getD_assignment (trail : Trail) (p : Proposition) :
    trail.assignment.getD p.index false = (trail.at? p).getD false := by
  simp only [assignment, at?, Array.getD_eq_getD_getElem?, Array.getElem?_map]
  cases trail.values[p.index]? <;> rfl

namespace Problem

variable {problem : Problem} {chooser : Chooser σ} {budget : Nat} {source source' : σ}
  {solution : Solution}

/-- A solution holds the values that the search found. -/
theorem search_of_solve
    (h : problem.solve chooser budget source = (.ok solution, source')) :
    ∃ trail left, (problem.search chooser budget source).1 = .found trail left ∧
      solution.assignment = trail.assignment ∧ solution.steps = budget - left := by
  unfold solve at h
  split at h
  · cases h
  · cases h
  case h_3 trail left source'' searched =>
    cases h
    exact ⟨trail, left, by rw [searched], rfl, rfl⟩

/-- The truth values of a solution are on the trail of the search, and meet all constraints. -/
theorem Scoped.satisfiedBy_of_solve (h : problem.Scoped)
    (solved : problem.solve chooser budget source = (.ok solution, source')) :
    problem.SatisfiedBy solution.holds ∧
      ∃ trail left, (problem.search chooser budget source).1 = .found trail left ∧
        ∀ p ∈ problem.propositions, trail.at? p = some (solution.holds p) := by
  obtain ⟨trail, left, success, assignment, -⟩ := search_of_solve solved
  have holds (p : Proposition) : solution.holds p = (trail.at? p).getD false := by
    rw [Solution.holds, assignment, Trail.getD_assignment]
  have completes : Valuation.Completes solution.holds trail.at? := by
    intro p b hb
    rw [holds, hb]
    rfl
  obtain ⟨quiet, known⟩ := quietOn_of_search h success
  refine ⟨?_, trail, left, success, ?_⟩
  · intro constraint mem
    exact Constraint.holds_of_isQuiet (fun p hp => known p (h.constraints constraint mem p hp))
      (quiet constraint mem) completes
  · intro p hp
    obtain ⟨b, hb⟩ := Option.isSome_iff_exists.mp (known p (mem_propositions.mp hp))
    rw [holds, hb]
    rfl

/-- A solution comes from a trail on which the search has put the truth value of every single
proposition, and breaks no constraint. -/
theorem violated?_solve (built : problem.Built) (chooser : Chooser σ) (budget : Nat) (source : σ)
    (h : problem.solve chooser budget source = (.ok solution, source')) :
    (∃ trail left, (problem.search chooser budget source).1 = .found trail left ∧
      ∀ p ∈ problem.propositions, trail.at? p = some (solution.holds p)) ∧
    problem.violated? solution = none := by
  obtain ⟨satisfied, found⟩ := built.scoped.satisfiedBy_of_solve h
  exact ⟨found, (violated?_eq_none_iff problem solution).mpr satisfied⟩

/-! ## Solving a small problem -/

theorem occurrences_weather :
    weather.occurrences = .ofConstraints 2 weather.constraints.toList := by
  rw [occurrences, size_weather]

theorem propositions_weather : weather.propositions = [sun, rain] := by
  rw [propositions, size_weather]
  rfl

theorem settle_weather : weather.settle 20 = ⟨.quiet, .blank 2, 17⟩ := by
  rw [settle, occurrences_weather, size_weather]
  cbv

/-- If there is sun, there is rain, and then there must not be both. -/
theorem pursue_weather : Decision.pursue weather.occurrences ⟨sun, true, false, 0⟩ 17 (.blank 2) =
    ⟨.conflict, ⟨#[some true, some true], #[sun, rain]⟩, 13⟩ := by
  rw [occurrences_weather]
  cbv

theorem retreat_weather : retreat weather.occurrences 13 [⟨sun, true, false, 0⟩]
      ⟨#[some true, some true], #[sun, rain]⟩ =
    .resumed 6 [⟨sun, false, true, 0⟩] ⟨#[some false, some true], #[sun, rain]⟩ := by
  rw [occurrences_weather]
  cbv

theorem search_weather : weather.search .steady 20 () =
    (.found ⟨#[some false, some true], #[sun, rain]⟩ 6, ()) := by
  rw [search, settle_weather]
  dsimp only [Chooser.steady]
  rw [propositions_weather, descend_of_next (p := sun) _ _ _ _ rfl rfl]
  rw [show (Trail.blank 2).height = 0 from rfl, pursue_weather]
  dsimp only
  rw [retreat_weather]
  dsimp only [Retreat.proceed]
  rw [descend]
  cbv

theorem solve_weather :
    weather.solve .steady 20 () = (.ok ⟨#[false, true], #[], 14⟩, ()) := by
  rw [solve, search_weather]
  cbv

/-- There is no sun but rain. -/
theorem violated?_weather : weather.solve .steady 20 () = (.ok ⟨#[false, true], #[], 14⟩, ()) ∧
    (∃ trail left, (weather.search .steady 20 ()).1 = .found trail left ∧
      ∀ p ∈ weather.propositions,
        trail.at? p = some (Solution.holds ⟨#[false, true], #[], 14⟩ p)) ∧
    weather.violated? ⟨#[false, true], #[], 14⟩ = none :=
  ⟨solve_weather, violated?_solve built_weather .steady 20 () solve_weather⟩

end Problem

end Worldsmith
