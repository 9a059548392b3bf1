import Worldsmith.Proofs.Search.Soundness

/-!
# Budgets only cut searches off

Every search takes a certain number of steps. With a smaller budget it is cut off, and with any
larger one it ends in the same way.

## Main definitions

* `Costs` — a computation takes a number of steps to its result.
* `potential` — bounds the decisions that a search can still make.
-/

namespace Worldsmith

/-! ## Costs -/

variable {α β : Type}

/-- With fewer than `cost` steps a computation is cut off. With at least as many it gives a result,
which is told how many are left. -/
def Costs (cutOff : α → Prop) (run : Nat → α) (cost : Nat) (result : Nat → α) : Prop :=
  ∀ left, (left < cost → cutOff (run left)) ∧ (cost ≤ left → run left = result (left - cost))

namespace Costs

variable {cutOff : α → Prop} {cutOff' : β → Prop} {run run' result : Nat → α} {cost cost' : Nat}

theorem now (run : Nat → α) : Costs cutOff run 0 run :=
  fun _ => ⟨fun lt => absurd lt (Nat.not_lt_zero _), fun _ => rfl⟩

theorem congr (h : Costs cutOff run' cost result) (same : ∀ left, run left = run' left) :
    Costs cutOff run cost result := by
  rwa [funext same]

/-- A first step costs one. -/
theorem tick (h : Costs cutOff run' cost result) (zero : cutOff (run 0))
    (succ : ∀ left, run (left + 1) = run' left) : Costs cutOff run (cost + 1) result := by
  intro left
  cases left with
  | zero => exact ⟨fun _ => zero, fun le => absurd le (by omega)⟩
  | succ left =>
    rw [succ]
    refine ⟨fun lt => (h left).1 (by omega), fun le => ?_⟩
    rw [(h left).2 (by omega)]
    congr 1
    omega

theorem run_cost (h : Costs cutOff run cost result) : run cost = result 0 := by
  rw [(h cost).2 (Nat.le_refl cost), Nat.sub_self]

/-- Costs add up when a computation goes on with the steps that another one leaves. -/
theorem bind {run' next : Nat → β} {result' : Nat → β} (h : Costs cutOff run cost result)
    (stays : ∀ left, cutOff (run left) → cutOff' (run' left))
    (goes : ∀ left left', run left = result left' → run' left = next left')
    (rest : Costs cutOff' next cost' result') : Costs cutOff' run' (cost + cost') result' := by
  intro left
  by_cases enough : cost ≤ left
  · obtain ⟨short, ended⟩ := rest (left - cost)
    rw [goes left (left - cost) ((h left).2 enough), ← Nat.sub_sub]
    exact ⟨fun lt => short (by omega), fun le => ended (by omega)⟩
  · have short : left < cost := by omega
    exact ⟨fun _ => stays left ((h left).1 short), fun le => absurd le (by omega)⟩

end Costs

variable {σ : Type} {constraints : List Constraint} {occurrences : Occurrences}
  {order pending : List Proposition} {decision : Decision} {stack stack' : List Decision}
  {trail trail' after : Trail} {todo : List Constraint} {queue : List Proposition} {cost : Nat}

/-! ## Propagation -/

/-- Whether propagation ran out of steps. -/
def Progress.IsCutOff (progress : Progress) : Prop := progress.verdict = .exhausted

/-- Forcing literals of which the first is unknown closes an opening. -/
theorem Trail.openings_lt_of_force {l : Literal} {rest : List Literal} {ok : Bool}
    {queue' : List Proposition} (h : trail.force (l :: rest) queue = (ok, trail', queue'))
    (inside : ∀ m ∈ l :: rest, m.proposition.index < trail.values.size)
    (unknown : trail.at? l.proposition = none) : trail'.openings < trail.openings := by
  have value : trail.value l = none := Assignment.value_eq_none.mpr unknown
  have fresh : trail.Open l.proposition :=
    open_iff.mpr ⟨inside l List.mem_cons_self, unknown⟩
  rw [force, value] at h
  have grows : (trail.assign l).Grows trail' := by
    refine force_grows h ?_
    rw [size_assign]
    exact (List.forall_mem_cons.mp inside).2
  have one := openings_assign fresh
  have := grows.openings_le
  omega

/-- Propagation takes a certain number of steps: what is forced closes openings, and what is not
leaves less to examine. -/
theorem exists_costs_propagate (todo : List Constraint) (queue : List Proposition) (trail : Trail)
    (index : occurrences.Indexes trail.values.size constraints)
    (listed : ∀ c ∈ todo, c ∈ constraints) :
    ∃ cost verdict trail', verdict ≠ .exhausted ∧
      Costs Progress.IsCutOff (propagate occurrences · todo queue trail) cost
        (⟨verdict, trail', ·⟩) := by
  match todo, queue with
  | [], [] =>
    exact ⟨0, .quiet, trail, by simp, (Costs.now _).congr fun left => by rw [propagate]⟩
  | [], p :: queue =>
    obtain ⟨cost, verdict, trail', ended, costs⟩ := exists_costs_propagate
      (occurrences.of p) queue trail index fun c hc => (index.mem_of_iff.mp hc).1
    exact ⟨cost, verdict, trail', ended, costs.congr fun left => by rw [propagate]⟩
  | constraint :: todo, queue =>
    obtain ⟨mem, listed⟩ := List.forall_mem_cons.mp listed
    have zero : (propagate occurrences 0 (constraint :: todo) queue trail).IsCutOff := by
      rw [propagate]
      rfl
    cases consequence : constraint.consequence trail.value with
    | undecided =>
      obtain ⟨cost, verdict, trail', ended, costs⟩ :=
        exists_costs_propagate todo queue trail index listed
      exact ⟨cost + 1, verdict, trail', ended,
        costs.tick zero fun left => by rw [propagate, consequence]⟩
    | settled =>
      obtain ⟨cost, verdict, trail', ended, costs⟩ :=
        exists_costs_propagate todo queue trail index listed
      exact ⟨cost + 1, verdict, trail', ended,
        costs.tick zero fun left => by rw [propagate, consequence]⟩
    | conflict =>
      exact ⟨1, .conflict, trail, by simp,
        (Costs.now _).tick zero fun left => by rw [propagate, consequence]⟩
    | force literals =>
      have inside := index.inside mem consequence
      obtain ⟨some_literal, about⟩ := Constraint.consequence_force consequence
      cases forced : trail.force literals queue with
      | mk ok rest =>
        obtain ⟨trail', queue'⟩ := rest
        cases ok with
        | false =>
          exact ⟨1, .conflict, trail', by simp,
            (Costs.now _).tick zero fun left => by rw [propagate, consequence]; simp only [forced]⟩
        | true =>
          have fewer : trail'.openings < trail.openings := by
            obtain ⟨l, others, rfl⟩ := List.exists_cons_of_ne_nil some_literal
            exact Trail.openings_lt_of_force forced inside (about l List.mem_cons_self).2
          rw [← (Trail.force_grows forced inside).size_eq] at index
          obtain ⟨cost, verdict, last, ended, costs⟩ :=
            exists_costs_propagate todo queue' trail' index listed
          exact ⟨cost + 1, verdict, last, ended,
            costs.tick zero fun left => by rw [propagate, consequence]; simp only [forced]⟩
termination_by (trail.openings, queue.length, todo.length)

/-- A decision takes a certain number of steps, and closes an opening. -/
theorem Decision.exists_costs_pursue (decision : Decision)
    (index : occurrences.Indexes trail.values.size constraints)
    (fresh : trail.Open decision.proposition) :
    ∃ cost verdict after, verdict ≠ .exhausted ∧
      (trail.assign decision.literal).Grows after ∧ after.openings < trail.openings ∧
      Costs Progress.IsCutOff (decision.pursue occurrences · trail) cost (⟨verdict, after, ·⟩) := by
  rw [← Trail.size_assign trail decision.literal] at index
  obtain ⟨cost, verdict, after, ended, costs⟩ :=
    exists_costs_propagate [] [decision.proposition] _ index (List.forall_mem_nil _)
  have run : propagate occurrences cost [] [decision.proposition]
      (trail.assign decision.literal) = ⟨verdict, after, 0⟩ := costs.run_cost
  have grows := grows_propagate index cost [decision.proposition] (List.forall_mem_nil _)
  rw [run] at grows
  have one := Trail.openings_assign (l := decision.literal) fresh
  have fewer : after.openings ≤ (trail.assign decision.literal).openings := grows.openings_le
  exact ⟨cost + 1, verdict, after, ended, grows, by omega, costs.tick rfl fun _ => rfl⟩

/-! ## Retreating -/

/-- What the decisions of a stack that have been tried one way only can still cost. -/
def weight : List Decision → Trail → Nat
  | [], _ => 0
  | decision :: stack, trail =>
    let before := trail.undo decision.height
    (if decision.flipped then 0 else 3 ^ (before.openings - 1)) + weight stack before

/-- Bounds the decisions that a search can still make: each open proposition at most trebles those
above it, and the decisions of the stack are still to be tried the other way. -/
def potential (stack : List Decision) (trail : Trail) : Nat :=
  3 ^ trail.openings + weight stack trail

/-- A retreat takes a certain number of steps, and leaves a search with less to try. -/
theorem exists_costs_retreat (index : occurrences.Indexes trail.values.size constraints)
    (rests : Rests constraints stack trail) :
    ∃ cost, Costs (· = .exhausted) (retreat occurrences · stack trail) cost (fun _ => .refuted) ∨
      ∃ stack' trail', potential stack' trail' ≤ weight stack trail ∧
        Costs (· = .exhausted) (retreat occurrences · stack trail) cost
          (.resumed · stack' trail') := by
  induction rests with
  | bottom trail => exact ⟨0, .inl ((Costs.now _).congr fun left => by rw [retreat])⟩
  | @decide decision stack before trail below height fresh quiet grows ih =>
    have here : trail.undo decision.height = before := by
      rw [height]
      exact Trail.undo_of_grows_assign (l := decision.literal) fresh grows
    rw [size_of_grows_assign grows] at index
    cases flipped : decision.flipped with
    | true =>
      have skip (left : Nat) : retreat occurrences left (decision :: stack) trail =
          retreat occurrences left stack before := by
        rw [retreat, if_pos flipped, here]
      simpa only [skip, weight, flipped, here, if_true, Nat.zero_add] using ih index
    | false =>
      obtain ⟨cost, verdict, after, ended, grows', fewer, costs⟩ :=
        decision.flip.exists_costs_pursue index fresh
      have here' : after.undo decision.height = before := by
        rw [height]
        exact Trail.undo_of_grows_assign (l := decision.flip.literal) fresh grows'
      have stays (left : Nat) (cut : (decision.flip.pursue occurrences left before).IsCutOff) :
          retreat occurrences left (decision :: stack) trail = .exhausted := by
        cases run : decision.flip.pursue occurrences left before with
        | mk verdict after left' =>
          obtain rfl : verdict = .exhausted := by rwa [run] at cut
          simp [retreat, flipped, here, run]
      cases verdict with
      | exhausted => exact absurd rfl ended
      | quiet =>
        refine ⟨cost + 0, .inr ⟨decision.flip :: stack, after, ?_,
          costs.bind stays (fun left left' run => ?_) (Costs.now _)⟩⟩
        · have less : 3 ^ after.openings ≤ 3 ^ (before.openings - 1) :=
            Nat.pow_le_pow_right (by omega) (by omega)
          have flip : decision.flip.flipped = true := rfl
          have height : decision.flip.height = decision.height := rfl
          simp only [potential, weight, flip, height, here, here', flipped, if_true]
          simpa using less
        · simp [retreat, flipped, here, run]
      | conflict =>
        have goes (left left' : Nat)
            (run : decision.flip.pursue occurrences left before = ⟨.conflict, after, left'⟩) :
            retreat occurrences left (decision :: stack) trail =
              retreat occurrences left' stack before := by
          simp [retreat, flipped, here, here', run]
        obtain ⟨cost', refuted | ⟨stack', trail', less, resumed⟩⟩ := ih index
        · exact ⟨cost + cost', .inl (costs.bind stays goes refuted)⟩
        · refine ⟨cost + cost', .inr ⟨stack', trail', ?_, costs.bind stays goes resumed⟩⟩
          simp only [weight, here]
          omega

/-! ## Descending -/

/-- A search ends in one way once it has so many steps. -/
inductive Ends (run : Nat → Outcome × σ) (cost : Nat) : Prop where
  | refuted (source : σ) (costs : Costs (·.1 = .timeout) run cost
      fun _ => (.contradiction, source)) : Ends run cost
  | found (trail : Trail) (source : σ) (costs : Costs (·.1 = .timeout) run cost
      fun left => (.found trail left, source)) : Ends run cost

/-- A search that goes on with the steps that another computation leaves ends in one way. -/
theorem Costs.ends {α : Type} {cutOff : α → Prop} {run result : Nat → α} {cost cost' : Nat}
    {run' next : Nat → Outcome × σ} (h : Costs cutOff run cost result)
    (stays : ∀ left, cutOff (run left) → (run' left).1 = .timeout)
    (goes : ∀ left left', run left = result left' → run' left = next left')
    (rest : Ends next cost') : Ends run' (cost + cost') := by
  cases rest with
  | refuted source costs => exact .refuted source (h.bind stays goes costs)
  | found trail source costs => exact .found trail source (h.bind stays goes costs)

/-- A search that has to retreat ends in one way if those with less to try do. -/
theorem exists_ends_retreat {prior : Proposition → Float} {draw : Float → σ → Bool × σ}
    {source : σ} (index : occurrences.Indexes trail.values.size constraints)
    (rests : Rests constraints stack trail)
    (smaller : ∀ left stack' trail', potential stack' trail' ≤ weight stack trail →
      retreat occurrences left stack trail = .resumed 0 stack' trail' →
      ∃ cost, Ends (descend occurrences prior draw order · stack' order trail' source) cost) :
    ∃ cost, Ends (fun left => (retreat occurrences left stack trail).proceed occurrences prior
      draw order source) cost := by
  obtain ⟨cost, refuted | ⟨stack', trail', less, resumed⟩⟩ := exists_costs_retreat index rests
  · refine ⟨cost + 0, refuted.ends (fun left cut => ?_) (fun left left' run => ?_)
      (.refuted source (Costs.now _))⟩
    · rw [cut]; rfl
    · rw [run]; rfl
  · obtain ⟨cost', ends⟩ := smaller cost stack' trail' less resumed.run_cost
    refine ⟨cost + cost', resumed.ends (fun left cut => ?_) (fun left left' run => ?_) ends⟩
    · rw [cut]; rfl
    · rw [run]; rfl

/-- A decision about the next proposition leaves a search with less to try. -/
theorem weight_decide {p : Proposition} (fresh : trail.Open p) (value : Bool)
    (grows : (trail.assign ⟨p, value⟩).Grows after) :
    3 ^ after.openings + weight (⟨p, value, false, trail.height⟩ :: stack) after <
      potential stack trail := by
  have back : after.undo trail.height = trail :=
    Trail.undo_of_grows_assign (l := ⟨p, value⟩) fresh grows
  have one := Trail.openings_assign (l := ⟨p, value⟩) fresh
  have fewer := grows.openings_le
  have bound : 3 ^ after.openings ≤ 3 ^ (trail.openings - 1) :=
    Nat.pow_le_pow_right (by omega) (by omega)
  have treble : 3 ^ trail.openings = 3 ^ (trail.openings - 1) * 3 := by
    rw [← Nat.pow_succ]
    congr 1
    omega
  have positive : 0 < 3 ^ (trail.openings - 1) := Nat.pow_pos (by omega)
  simp only [potential, weight, back, Bool.false_eq_true, if_false]
  omega

/-- A descent ends in one way: each decision and each retreat leaves less to try. -/
theorem exists_ends_descend (prior : Proposition → Float) (draw : Float → σ → Bool × σ)
    (order : List Proposition) (stack : List Decision) (pending : List Proposition) (trail : Trail)
    (source : σ) (index : occurrences.Indexes trail.values.size constraints)
    (reached : Reached constraints order stack pending trail) :
    ∃ cost, Ends (descend occurrences prior draw order · stack pending trail source) cost := by
  cases next : skipAssigned trail pending with
  | nil =>
    have found (left : Nat) : descend occurrences prior draw order left stack pending trail source =
        (.found trail left, source) := by
      rw [descend]
      split <;> simp_all
    exact ⟨0, .found trail source ((Costs.now _).congr found)⟩
  | cons p rest =>
    have fresh := reached.fresh next
    cases drawn : draw (prior p) source with
    | mk value source' =>
      have step (left : Nat) := descend_of_next occurrences order left stack next drawn
      let decision : Decision := ⟨p, value, false, trail.height⟩
      obtain ⟨cost, verdict, after, ended, grows, -, costs⟩ :=
        decision.exists_costs_pursue index fresh
      have less : 3 ^ after.openings + weight (decision :: stack) after < potential stack trail :=
        weight_decide fresh value grows
      have stays (left : Nat) (cut : (decision.pursue occurrences left trail).IsCutOff) :
          (descend occurrences prior draw order left stack pending trail source).1 = .timeout := by
        rw [step]
        cases run : decision.pursue occurrences left trail with
        | mk verdict after left' =>
          obtain rfl : verdict = .exhausted := by rwa [run] at cut
          rfl
      cases verdict with
      | exhausted => exact absurd rfl ended
      | quiet =>
        have reached' := reached.advance index next costs.run_cost
        rw [← size_of_grows_assign grows] at index
        have smaller : potential (decision :: stack) after < potential stack trail := less
        obtain ⟨cost', ends⟩ := exists_ends_descend prior draw order (decision :: stack) rest after
          source' index reached'
        exact ⟨cost + cost', costs.ends stays (fun left left' run => by rw [step, run]) ends⟩
      | conflict =>
        have rests := reached.decide false fresh grows
        have ends : ∃ cost, Ends (fun left => (retreat occurrences left (decision :: stack)
            after).proceed occurrences prior draw order source') cost := by
          refine exists_ends_retreat (size_of_grows_assign grows ▸ index) rests ?_
          intro left stack' trail' below resumed
          have pursued := (costs (cost + left)).2 (by omega)
          rw [Nat.add_sub_cancel_left] at pursued
          obtain ⟨reached', size⟩ := reached.resume index next pursued resumed
          have smaller : potential stack' trail' < potential stack trail :=
            Nat.lt_of_le_of_lt (Nat.le_trans below (Nat.le_add_left _ _)) less
          exact exists_ends_descend prior draw order stack' order trail' source' (size ▸ index)
            reached'
        obtain ⟨cost', ends⟩ := ends
        exact ⟨cost + cost', costs.ends stays (fun left left' run => by rw [step, run]) ends⟩
termination_by potential stack trail

namespace Problem

variable {problem : Problem}

/-- A search ends in one way once its budget reaches a certain number of steps. -/
theorem exists_ends_search (h : problem.Scoped) (chooser : Chooser σ) (source : σ) :
    ∃ cost, Ends (problem.search chooser · source) cost := by
  have index := h.indexes
  rw [← size_blank problem.size] at index
  obtain ⟨cost, verdict, trail, ended, costs⟩ :=
    exists_costs_propagate problem.constraints.toList [] (.blank problem.size) index fun _ => id
  have stays (budget : Nat) (cut : (problem.settle budget).IsCutOff) :
      (problem.search chooser budget source).1 = .timeout := by
    unfold search
    cases run : problem.settle budget with
    | mk verdict trail left =>
      obtain rfl : verdict = .exhausted := by rwa [run] at cut
      rfl
  cases verdict with
  | exhausted => exact absurd rfl ended
  | conflict =>
    have goes (budget left : Nat) (run : problem.settle budget = ⟨.conflict, trail, left⟩) :
        problem.search chooser budget source = (.contradiction, source) := by
      rw [search, run]
    exact ⟨cost + 0, costs.ends stays goes (.refuted source (Costs.now _))⟩
  | quiet =>
    have perm := chooser.order_perm problem.propositions source
    obtain ⟨reached, size⟩ := reached_of_settle h _ perm costs.run_cost
    have index := h.indexes
    rw [← size] at index
    obtain ⟨cost', ends⟩ := exists_ends_descend problem.prior chooser.polarity
      (chooser.order problem.propositions source).1 []
      (chooser.order problem.propositions source).1 trail
      (chooser.order problem.propositions source).2 index reached
    have goes (budget left : Nat) (run : problem.settle budget = ⟨.quiet, trail, left⟩) :
        problem.search chooser budget source =
          descend problem.occurrences problem.prior chooser.polarity
            (chooser.order problem.propositions source).1 left []
            (chooser.order problem.propositions source).1 trail
            (chooser.order problem.propositions source).2 := by
      rw [search, run]
    exact ⟨cost + cost', costs.ends stays goes ends⟩

variable {chooser : Chooser σ} {budget left : Nat} {source source' : σ}

theorem solve_of_timeout (h : (problem.search chooser budget source).1 = .timeout) :
    (problem.solve chooser budget source).1 = .error (.timeout budget) := by
  unfold solve
  split <;> simp_all

theorem solve_of_found (h : problem.search chooser budget source = (.found trail left, source')) :
    problem.solve chooser budget source =
      let (values, source'') := drawValues
        (fun l => trail.assignment.getD l.proposition.index false == l.positive) chooser.number
        problem.unknowns.toList source'
      (.ok ⟨trail.assignment, values.toArray, budget - left⟩, source'') := by
  rw [solve, h]

/-- For each problem there is a number of steps such that every search with a smaller budget is cut
off, and every search with at least this budget ends in one and the same way: in a contradiction, or
in one solution, which took just as many steps. -/
theorem exists_threshold_solve (built : problem.Built) (chooser : Chooser σ) (source : σ) :
    ∃ threshold,
      (∀ budget < threshold,
        (problem.solve chooser budget source).1 = .error (.timeout budget)) ∧
      ((∃ source', ∀ budget ≥ threshold,
          problem.solve chooser budget source = (.error .contradiction, source')) ∨
        ∃ solution source', solution.steps = threshold ∧ ∀ budget ≥ threshold,
          problem.solve chooser budget source = (.ok solution, source')) := by
  obtain ⟨threshold, ends⟩ := exists_ends_search built.scoped chooser source
  refine ⟨threshold, ?_⟩
  cases ends with
  | refuted source' costs =>
    refine ⟨fun budget lt => solve_of_timeout ((costs budget).1 lt), .inl ⟨source', ?_⟩⟩
    intro budget ge
    rw [solve, (costs budget).2 ge]
  | found trail source' costs =>
    refine ⟨fun budget lt => solve_of_timeout ((costs budget).1 lt), .inr ?_⟩
    cases drawn : drawValues
        (fun l => trail.assignment.getD l.proposition.index false == l.positive) chooser.number
        problem.unknowns.toList source' with
    | mk values source'' =>
      refine ⟨⟨trail.assignment, values.toArray, threshold⟩, source'', rfl, ?_⟩
      intro budget ge
      rw [solve_of_found ((costs budget).2 ge), drawn, Nat.sub_sub_self ge]

theorem exists_threshold_weather : weather.Built ∧ ∃ threshold,
    (∀ budget < threshold, (weather.solve .steady budget ()).1 = .error (.timeout budget)) ∧
    ((∃ source', ∀ budget ≥ threshold,
        weather.solve .steady budget () = (.error .contradiction, source')) ∨
      ∃ solution source', solution.steps = threshold ∧ ∀ budget ≥ threshold,
        weather.solve .steady budget () = (.ok solution, source')) :=
  ⟨built_weather, exists_threshold_solve built_weather .steady ()⟩

end Problem

end Worldsmith
