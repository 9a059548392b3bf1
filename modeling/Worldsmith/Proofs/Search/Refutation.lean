import Worldsmith.Proofs.Search.Soundness

/-!
# Only unsatisfiable problems are refuted

A valuation that meets all constraints is never lost. At every point of a search it either
completes the trail or waits below a decision that has been tried one way only, so that a retreat
comes back to it.

## Main definitions

* `Untried` — a valuation waits below one of the decisions on a stack.
-/

namespace Worldsmith

variable {σ : Type} {constraints : List Constraint} {occurrences : Occurrences}
  {order pending : List Proposition} {decision : Decision} {stack : List Decision}
  {trail before after : Trail} {left left' : Nat} {verdict : Verdict} {v : Valuation}

/-- A valuation completes the trail below some decision of a stack, disagrees with the decision,
and the decision has been tried one way only. -/
inductive Untried (v : Valuation) : List Decision → Trail → Prop where
  | top {decision : Decision} {stack : List Decision} {trail : Trail}
      (once : decision.flipped = false)
      (completes : v.Completes (trail.undo decision.height).at?)
      (disagrees : v decision.proposition = !decision.value) :
      Untried v (decision :: stack) trail
  | deeper {decision : Decision} {stack : List Decision} {trail : Trail}
      (rest : Untried v stack (trail.undo decision.height)) : Untried v (decision :: stack) trail

/-- A retreat has not lost a valuation. -/
def Retreat.Keeps (v : Valuation) : Retreat → Prop
  | .exhausted => True
  | .refuted => False
  | .resumed _ stack trail => v.Completes trail.at? ∨ Untried v stack trail

/-- After a decision a valuation completes the trail and there was no conflict, or it waits. -/
theorem Decision.untried_of_pursue (once : decision.flipped = false)
    (index : occurrences.Indexes trail.values.size constraints)
    (fresh : trail.Open decision.proposition) (height : decision.height = trail.height)
    (met : ∀ c ∈ constraints, c.holds v.satisfies = true)
    (kept : v.Completes trail.at? ∨ Untried v stack trail)
    (pursued : decision.pursue occurrences left trail = ⟨verdict, after, left'⟩)
    (ended : verdict ≠ .exhausted) :
    (verdict ≠ .conflict ∧ v.Completes after.at?) ∨ Untried v (decision :: stack) after := by
  have back := decision.undo_pursue index fresh height pursued ended
  rcases kept with completes | waits
  · by_cases agrees : v decision.proposition = decision.value
    · exact .inl (decision.completes_pursue index fresh met completes agrees pursued ended)
    · refine .inr (.top once (by rwa [back]) ?_)
      cases value : decision.value <;> simp_all
  · exact .inr (.deeper (by rwa [back]))

/-- A retreat comes back to the valuations that wait. -/
theorem keeps_retreat (index : occurrences.Indexes trail.values.size constraints)
    (met : ∀ c ∈ constraints, c.holds v.satisfies = true)
    (rests : Rests constraints stack trail) (waits : Untried v stack trail) :
    (retreat occurrences left stack trail).Keeps v := by
  fun_induction retreat occurrences left stack trail with
  | case1 => cases waits
  | case2 left decision stack trail back flipped ih =>
    obtain ⟨before, here, below, -, -, -, grows⟩ := rests.undo
    rw [size_of_grows_assign grows] at index
    simp only [back, here] at ih ⊢
    cases waits with
    | top once => simp [once] at flipped
    | deeper rest => exact ih index below (here ▸ rest)
  | case3 left decision stack trail back once after left' pursued =>
    obtain ⟨before, here, -, height, fresh, -, grows⟩ := rests.undo
    rw [size_of_grows_assign grows] at index
    simp only [back, here] at pursued
    cases waits with
    | top _ completes disagrees =>
      rw [here] at completes
      exact .inl (decision.flip.completes_pursue index fresh met completes disagrees pursued
        (by simp)).2
    | deeper rest =>
      refine .inr (.deeper ?_)
      rwa [decision.flip.undo_pursue index fresh height pursued (by simp), ← here]
  | case4 left decision stack trail back once after left' pursued ih =>
    obtain ⟨before, here, below, height, fresh, -, grows⟩ := rests.undo
    rw [size_of_grows_assign grows] at index
    simp only [back, here] at pursued
    have here' : after.undo decision.height = before :=
      decision.flip.undo_pursue index fresh height pursued (by simp)
    rw [here'] at ih ⊢
    cases waits with
    | top _ completes disagrees =>
      rw [here] at completes
      have clear := decision.flip.completes_pursue index fresh met completes disagrees pursued
        (by simp)
      exact absurd rfl clear.1
    | deeper rest => exact ih index below (here ▸ rest)
  | case5 => trivial

/-- A retreat from the conflict after a decision has not lost a valuation. -/
theorem Reached.keeps_retreat (reached : Reached constraints order stack pending trail)
    (index : occurrences.Indexes trail.values.size constraints) {p : Proposition}
    {rest : List Proposition} (next : skipAssigned trail pending = p :: rest)
    (met : ∀ c ∈ constraints, c.holds v.satisfies = true)
    (kept : v.Completes trail.at? ∨ Untried v stack trail) {value : Bool}
    (pursued : Decision.pursue occurrences ⟨p, value, false, trail.height⟩ left trail =
      ⟨.conflict, after, left'⟩) :
    (retreat occurrences left' (⟨p, value, false, trail.height⟩ :: stack) after).Keeps v := by
  have fresh := reached.fresh next
  have grows := Decision.grows_pursue _ index pursued (by simp)
  have kept' := Decision.untried_of_pursue rfl index fresh rfl met kept pursued (by simp)
  have waits := kept'.resolve_left fun clear => clear.1 rfl
  rw [← size_of_grows_assign grows] at index
  exact Worldsmith.keeps_retreat index met (reached.decide false fresh grows) waits

/-- A descent does not refute what a valuation meets that completes the trail or waits. -/
theorem descend_ne_contradiction (prior : Proposition → Float) (draw : Float → σ → Bool × σ)
    (source : σ) (index : occurrences.Indexes trail.values.size constraints)
    (met : ∀ c ∈ constraints, c.holds v.satisfies = true)
    (reached : Reached constraints order stack pending trail)
    (kept : v.Completes trail.at? ∨ Untried v stack trail) :
    (descend occurrences prior draw order left stack pending trail source).1 ≠
      .contradiction := by
  fun_induction descend occurrences prior draw order left stack pending trail source with
  | case1 => simp
  | case2 left stack pending trail source p rest next value source' drawn decision after left'
      pursued _ ih =>
    have fresh := reached.fresh next
    have reached' := reached.advance index next pursued
    have kept' := decision.untried_of_pursue rfl index fresh rfl met kept pursued (by simp)
    rw [← size_of_grows_assign (decision.grows_pursue index pursued (by simp))] at index
    exact ih index reached' (kept'.imp_left And.right)
  | case3 left stack pending trail source p rest next value source' drawn decision after left'
      pursued last stack' resumed retreated _ ih =>
    obtain ⟨reached', size⟩ := reached.resume index next pursued retreated
    have keeps := reached.keeps_retreat index next met kept pursued
    rw [retreated] at keeps
    rw [← size] at index
    exact ih index reached' keeps
  | case4 left stack pending trail source p rest next value source' drawn decision after left'
      pursued retreated =>
    have keeps := reached.keeps_retreat index next met kept pursued
    rw [retreated] at keeps
    exact keeps.elim
  | case5 => simp
  | case6 => simp

namespace Problem

variable {problem : Problem}

/-- A search does not refute a satisfiable problem. -/
theorem search_ne_contradiction (h : problem.Scoped) (met : problem.SatisfiedBy v)
    (chooser : Chooser σ) (budget : Nat) (source : σ) :
    (problem.search chooser budget source).1 ≠ .contradiction := by
  have index := h.indexes
  rw [← size_blank problem.size] at index
  have settled := completes_propagate index budget [] (fun _ => id) met (v.completes_blank _)
  unfold search
  split
  · simp
  case h_2 trail left conflict =>
    rw [settle] at conflict
    rw [conflict] at settled
    exact absurd rfl settled.1
  case h_3 trail left quiet =>
    have perm := chooser.order_perm problem.propositions source
    obtain ⟨reached, size⟩ := reached_of_settle h _ perm quiet
    have index := h.indexes
    rw [← size] at index
    rw [settle] at quiet
    rw [quiet] at settled
    exact descend_ne_contradiction _ _ _ index met reached (.inl settled.2)

/-- When solving a problem ends in a contradiction, no valuation meets all constraints. -/
theorem not_satisfiable_of_solve (built : problem.Built) (chooser : Chooser σ) (budget : Nat)
    (source source' : σ)
    (h : problem.solve chooser budget source = (.error .contradiction, source')) :
    ¬ problem.Satisfiable := by
  rintro ⟨v, met⟩
  have search := search_ne_contradiction built.scoped met chooser budget source
  unfold solve at h
  split at h
  · cases h
  case h_2 source'' refuted => exact search (congrArg Prod.fst refuted)
  · cases h

theorem search_impossibleWeather :
    impossibleWeather.search .steady 20 () = (.contradiction, ()) := by
  have size : impossibleWeather.size = 2 := size_weather
  have occurrences : impossibleWeather.occurrences =
      .ofConstraints 2 impossibleWeather.constraints.toList := by
    rw [Problem.occurrences, size]
  have settled : impossibleWeather.settle 20 = ⟨.quiet, .blank 2, 16⟩ := by
    rw [settle, occurrences, size]
    cbv
  have pursued : Decision.pursue impossibleWeather.occurrences ⟨sun, true, false, 0⟩ 16 (.blank 2) =
      ⟨.conflict, ⟨#[some true, some true], #[sun, rain]⟩, 12⟩ := by
    rw [occurrences]
    cbv
  have retreated : retreat impossibleWeather.occurrences 12 [⟨sun, true, false, 0⟩]
      ⟨#[some true, some true], #[sun, rain]⟩ = .refuted := by
    rw [occurrences]
    cbv
  have propositions : impossibleWeather.propositions = [sun, rain] := by
    rw [Problem.propositions, size]
    rfl
  rw [search, settled]
  dsimp only [Chooser.steady]
  rw [propositions, descend_of_next (p := sun) _ _ _ _ rfl rfl]
  rw [show (Trail.blank 2).height = 0 from rfl, pursued]
  dsimp only
  rw [retreated]
  rfl

theorem not_satisfiable_impossibleWeather :
    impossibleWeather.solve .steady 20 () = (.error .contradiction, ()) ∧
      ¬ impossibleWeather.Satisfiable := by
  have refuted : impossibleWeather.solve .steady 20 () = (.error .contradiction, ()) := by
    rw [solve, search_impossibleWeather]
  exact ⟨refuted, not_satisfiable_of_solve built_impossibleWeather .steady 20 () () refuted⟩

end Problem

end Worldsmith
