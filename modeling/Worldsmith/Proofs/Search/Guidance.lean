import Worldsmith.Proofs.Search.Budget

/-!
# Every solution can be found

A valuation that meets all constraints is found by every search that draws its values, whatever the
order of decisions. All that is forced on the way agrees with the valuation, so there is no conflict
and no decision is taken back. Each proposition gets its value once, which bounds the steps.

## Main definitions

* `Occurrences.outlay` — the steps that open propositions can still bring about.
* `Problem.Visits` — the places that a search comes by.
* `Problem.Guides` — all values that a search draws are those of a valuation.

## Main statements

* `outlay_propagate` — propagation leaves enough steps for what it leaves open.
* `Problem.Visits.onCourse` — a guided search never leaves its valuation.
* `Problem.solve_of_guides` — it finds the valuation, and never backtracks.
-/

namespace Worldsmith

variable {σ : Type} {constraints todo : List Constraint} {occurrences : Occurrences}
  {decision : Decision} {trail trail' : Trail} {left : Nat} {queue : List Proposition}

/-! ## What can still be spent -/

namespace Occurrences

/-- The steps that open propositions can still bring about: for each of them one decision, and one
examination of each constraint that mentions it. -/
def outlay (occurrences : Occurrences) (trail : Trail) : Nat :=
  ∑ i ∈ Finset.range trail.values.size with trail.at? ⟨i⟩ = none, ((occurrences.of ⟨i⟩).length + 1)

/-- The examinations that are due to propositions on a queue. -/
def due (occurrences : Occurrences) (queue : List Proposition) : Nat :=
  (queue.map fun p => (occurrences.of p).length).sum

theorem due_cons (occurrences : Occurrences) (p : Proposition) (queue : List Proposition) :
    occurrences.due (p :: queue) = (occurrences.of p).length + occurrences.due queue := by
  simp [due]

theorem outlay_blank (occurrences : Occurrences) (count : Nat) :
    occurrences.outlay (.blank count) =
      ∑ i ∈ Finset.range count, ((occurrences.of ⟨i⟩).length + 1) := by
  rw [outlay, Problem.size_blank]
  simp [Trail.at?_blank]

/-- A proposition that gets a value brings about nothing more than what is now due to it. -/
theorem outlay_assign (occurrences : Occurrences) {l : Literal} (fresh : trail.Open l.proposition) :
    occurrences.outlay (trail.assign l) + ((occurrences.of l.proposition).length + 1) =
      occurrences.outlay trail := by
  obtain ⟨inside, unassigned⟩ := Trail.open_iff.mp fresh
  have mem : l.proposition.index ∈
      (Finset.range trail.values.size).filter fun i => trail.at? ⟨i⟩ = none := by
    simpa [inside] using unassigned
  have others : ((Finset.range (trail.assign l).values.size).filter fun i =>
      (trail.assign l).at? ⟨i⟩ = none) =
        ((Finset.range trail.values.size).filter fun i => trail.at? ⟨i⟩ = none).erase
          l.proposition.index := by
    ext i
    rw [Finset.mem_erase, Finset.mem_filter, Finset.mem_filter, Trail.size_assign,
      Trail.at?_assign fresh]
    by_cases same : i = l.proposition.index
    · subst same
      simp
    · have apart : (⟨i⟩ : Proposition) ≠ l.proposition := fun h => same (h ▸ rfl)
      simp [same, apart]
  rw [outlay, others]
  exact Finset.sum_erase_add _ _ mem

end Occurrences

/-- What is forced moves from what is open to the queue. -/
theorem Trail.outlay_force (occurrences : Occurrences) {literals : List Literal}
    {queue' : List Proposition} {ok : Bool}
    (h : trail.force literals queue = (ok, trail', queue'))
    (inside : ∀ l ∈ literals, l.proposition.index < trail.values.size) :
    occurrences.due queue' + occurrences.outlay trail' ≤
      occurrences.due queue + occurrences.outlay trail := by
  fun_induction trail.force literals queue with
  | case1 => cases h; exact Nat.le_refl _
  | case2 l rest trail queue _ ih => exact ih h (List.forall_mem_cons.mp inside).2
  | case3 => cases h; exact Nat.le_refl _
  | case4 l rest trail queue unknown ih =>
    have fresh : trail.Open l.proposition :=
      open_iff.mpr ⟨inside l List.mem_cons_self, Assignment.value_eq_none.mp unknown⟩
    have spent := occurrences.outlay_assign fresh
    have rest := ih h (by rw [size_assign]; exact (List.forall_mem_cons.mp inside).2)
    rw [Occurrences.due_cons] at rest
    omega

/-- Propagation that has steps for all that is due and all that is open does not run out of them,
and leaves enough for what it leaves open. -/
theorem outlay_propagate (index : occurrences.Indexes trail.values.size constraints)
    (listed : ∀ c ∈ todo, c ∈ constraints)
    (enough : todo.length + occurrences.due queue + occurrences.outlay trail ≤ left) :
    (propagate occurrences left todo queue trail).verdict ≠ .exhausted ∧
      occurrences.outlay (propagate occurrences left todo queue trail).trail ≤
        (propagate occurrences left todo queue trail).left := by
  fun_induction propagate occurrences left todo queue trail with
  | case1 => exact ⟨by simp, by simpa [Occurrences.due] using enough⟩
  | case2 left trail p queue ih =>
    rw [Occurrences.due_cons, List.length_nil] at enough
    exact ih index (fun c hc => (index.mem_of_iff.mp hc).1) (by omega)
  | case3 => simp at enough
  | case4 queue trail constraint todo left _ ih =>
    rw [List.length_cons] at enough
    exact ih index (List.forall_mem_cons.mp listed).2 (by omega)
  | case5 queue trail constraint todo left _ ih =>
    rw [List.length_cons] at enough
    exact ih index (List.forall_mem_cons.mp listed).2 (by omega)
  | case6 queue trail constraint todo left _ =>
    rw [List.length_cons] at enough
    exact ⟨by simp, by dsimp only; omega⟩
  | case7 queue trail constraint todo left literals forced trail' queue' done ih =>
    rw [List.length_cons] at enough
    have inside := index.inside (listed _ List.mem_cons_self) forced
    have moved := Trail.outlay_force occurrences done inside
    rw [← (Trail.force_grows done inside).size_eq] at index
    exact ih index (List.forall_mem_cons.mp listed).2 (by omega)
  | case8 queue trail constraint todo left literals forced trail' queue' done =>
    rw [List.length_cons] at enough
    have inside := index.inside (listed _ List.mem_cons_self) forced
    have moved := Trail.outlay_force occurrences done inside
    exact ⟨by simp, by dsimp only; omega⟩

theorem Decision.outlay_pursue (decision : Decision)
    (index : occurrences.Indexes trail.values.size constraints)
    (fresh : trail.Open decision.proposition) (enough : occurrences.outlay trail ≤ left) :
    (decision.pursue occurrences left trail).verdict ≠ .exhausted ∧
      occurrences.outlay (decision.pursue occurrences left trail).trail ≤
        (decision.pursue occurrences left trail).left := by
  have spent := occurrences.outlay_assign (l := decision.literal) fresh
  have about : decision.literal.proposition = decision.proposition := rfl
  rw [about] at spent
  cases left with
  | zero => omega
  | succ left =>
    rw [pursue]
    rw [← Trail.size_assign trail decision.literal] at index
    refine outlay_propagate index (List.forall_mem_nil _) ?_
    rw [Occurrences.due_cons, List.length_nil, Occurrences.due, List.map_nil, List.sum_nil]
    omega

/-! ## The course of a search -/

/-- Where a search stands when it turns to the next proposition. -/
structure Standing (σ : Type) where
  left : Nat
  stack : List Decision
  pending : List Proposition
  trail : Trail
  source : σ

namespace Problem

/-- Whether a search makes a decision next. It then leaves some propositions pending and goes on
drawing from another source. -/
structure Decides (problem : Problem) (chooser : Chooser σ) (here : Standing σ)
    (decision : Decision) (rest : List Proposition) (source : σ) : Prop where
  next : skipAssigned here.trail here.pending = decision.proposition :: rest
  drawn : chooser.polarity (problem.prior decision.proposition) here.source =
    (decision.value, source)
  once : decision.flipped = false
  height : decision.height = here.trail.height

/-- The places that a search comes by. -/
inductive Visits (problem : Problem) (chooser : Chooser σ) (budget : Nat) (source : σ) :
    Standing σ → Prop where
  | start {trail : Trail} {left : Nat} (settled : problem.settle budget = ⟨.quiet, trail, left⟩) :
      Visits problem chooser budget source
        ⟨left, [], (chooser.order problem.propositions source).1, trail,
          (chooser.order problem.propositions source).2⟩
  | advance {here : Standing σ} {decision : Decision} {rest : List Proposition} {source' : σ}
      {trail : Trail} {left : Nat} (visited : Visits problem chooser budget source here)
      (decides : problem.Decides chooser here decision rest source')
      (pursued : decision.pursue problem.occurrences here.left here.trail = ⟨.quiet, trail, left⟩) :
      Visits problem chooser budget source ⟨left, decision :: here.stack, rest, trail, source'⟩
  | backtrack {here : Standing σ} {decision : Decision} {rest : List Proposition} {source' : σ}
      {trail trail' : Trail} {left left' : Nat} {stack : List Decision}
      (visited : Visits problem chooser budget source here)
      (decides : problem.Decides chooser here decision rest source')
      (pursued : decision.pursue problem.occurrences here.left here.trail =
        ⟨.conflict, trail, left⟩)
      (resumed : retreat problem.occurrences left (decision :: here.stack) trail =
        .resumed left' stack trail') :
      Visits problem chooser budget source
        ⟨left', stack, (chooser.order problem.propositions source).1, trail', source'⟩

/-- Whether all values that a search draws are those of a valuation. -/
def Guides (problem : Problem) (chooser : Chooser σ) (budget : Nat) (source : σ)
    (v : Valuation) : Prop :=
  ∀ here, problem.Visits chooser budget source here → ∀ decision rest source',
    problem.Decides chooser here decision rest source' →
      decision.value = v decision.proposition

/-- Whether no decision of a search leads to a conflict or to the end of its steps, so that none is
ever taken back. -/
def NeverBacktracks (problem : Problem) (chooser : Chooser σ) (budget : Nat) (source : σ) : Prop :=
  ∀ here, problem.Visits chooser budget source here → ∀ decision rest source',
    problem.Decides chooser here decision rest source' →
      (decision.pursue problem.occurrences here.left here.trail).verdict = .quiet

/-- The steps of a search that gives each proposition its value once: it examines all constraints at
the beginning, and makes at most one decision for each proposition and examines each constraint that
mentions it. -/
def straightSteps (problem : Problem) : Nat :=
  problem.constraints.size +
    ∑ i ∈ Finset.range problem.size, ((problem.occurrences.of ⟨i⟩).length + 1)

variable {problem : Problem} {chooser : Chooser σ} {budget : Nat} {source source' : σ}
  {here : Standing σ} {rest : List Proposition} {v : Valuation}

theorem Decides.eq (decides : problem.Decides chooser here decision rest source') :
    decision = ⟨decision.proposition, decision.value, false, here.trail.height⟩ := by
  obtain ⟨p, value, flipped, height⟩ := decision
  obtain ⟨-, -, rfl, rfl⟩ := decides
  rfl

/-- From each place that it comes by a search goes on as a descent from there. -/
theorem Visits.search_eq (visited : problem.Visits chooser budget source here) :
    problem.search chooser budget source =
      descend problem.occurrences problem.prior chooser.polarity
        (chooser.order problem.propositions source).1 here.left here.stack here.pending here.trail
        here.source := by
  induction visited with
  | start settled => rw [search, settled]
  | advance visited decides pursued ih =>
    rw [decides.eq] at pursued
    rw [ih, descend_of_next _ _ _ _ decides.next decides.drawn, pursued, ← decides.eq]
  | backtrack visited decides pursued resumed ih =>
    rw [decides.eq] at pursued resumed
    rw [ih, descend_of_next _ _ _ _ decides.next decides.drawn, pursued]
    dsimp only
    rw [resumed, Retreat.proceed]

/-- What holds wherever a guided search comes by: the trail agrees with the valuation, and the steps
that are left are enough. -/
structure OnCourse (problem : Problem) (order : List Proposition) (v : Valuation)
    (here : Standing σ) : Prop where
  reached : Reached problem.constraints.toList order here.stack here.pending here.trail
  size : here.trail.values.size = problem.size
  completes : v.Completes here.trail.at?
  enough : problem.occurrences.outlay here.trail ≤ here.left

/-- With enough steps the first propagation comes to rest below every valuation that meets the
constraints. -/
theorem onCourse_start (h : problem.Scoped) (met : problem.SatisfiedBy v)
    (enough : problem.straightSteps ≤ budget) (order : List Proposition)
    (perm : order.Perm problem.propositions) (source : σ) :
    ∃ trail left, problem.settle budget = ⟨.quiet, trail, left⟩ ∧
      problem.OnCourse order v ⟨left, [], order, trail, source⟩ := by
  have index := h.indexes
  rw [← size_blank problem.size] at index
  obtain ⟨clear, completes⟩ := completes_propagate index budget [] (fun _ => id) met
    (v.completes_blank problem.size)
  have covers : problem.constraints.toList.length + problem.occurrences.due [] +
      problem.occurrences.outlay (.blank problem.size) ≤ budget := by
    simpa [Occurrences.due, Occurrences.outlay_blank, straightSteps] using enough
  obtain ⟨ended, left⟩ := outlay_propagate index (fun _ => id) covers
  rw [← settle] at clear completes ended left
  cases settled : problem.settle budget with
  | mk verdict trail rest =>
    rw [settled] at clear completes ended left
    cases verdict with
    | quiet =>
      obtain ⟨reached, size⟩ := reached_of_settle h order perm settled
      exact ⟨trail, rest, rfl, reached, size, completes, left⟩
    | conflict => exact absurd rfl clear
    | exhausted => exact absurd rfl ended

/-- A decision for the value that the valuation has meets no conflict and stays on course. -/
theorem OnCourse.advance {order : List Proposition} (course : problem.OnCourse order v here)
    (h : problem.Scoped) (met : problem.SatisfiedBy v)
    (decides : problem.Decides chooser here decision rest source')
    (agrees : decision.value = v decision.proposition) :
    ∃ trail left, decision.pursue problem.occurrences here.left here.trail =
        ⟨.quiet, trail, left⟩ ∧
      problem.OnCourse order v ⟨left, decision :: here.stack, rest, trail, source'⟩ := by
  have index := h.indexes
  rw [← course.size] at index
  have fresh := course.reached.fresh decides.next
  obtain ⟨ended, enough⟩ := decision.outlay_pursue index fresh course.enough
  cases pursued : decision.pursue problem.occurrences here.left here.trail with
  | mk verdict trail left =>
    rw [pursued] at ended enough
    have grows := decision.grows_pursue index pursued ended
    obtain ⟨clear, completes⟩ := decision.completes_pursue index fresh met course.completes
      agrees.symm pursued ended
    cases verdict with
    | quiet =>
      rw [decides.eq] at pursued ⊢
      exact ⟨trail, left, rfl, course.reached.advance index decides.next pursued,
        (size_of_grows_assign grows).trans course.size, completes, enough⟩
    | conflict => exact absurd rfl clear
    | exhausted => exact absurd rfl ended

/-- A guided search never leaves its course. -/
theorem Visits.onCourse (visited : problem.Visits chooser budget source here) (h : problem.Scoped)
    (met : problem.SatisfiedBy v) (enough : problem.straightSteps ≤ budget)
    (guided : problem.Guides chooser budget source v) :
    problem.OnCourse (chooser.order problem.propositions source).1 v here := by
  induction visited with
  | start settled =>
    obtain ⟨trail, left, settled', course⟩ := onCourse_start h met enough _
      (chooser.order_perm problem.propositions source)
      (chooser.order problem.propositions source).2
    cases settled.symm.trans settled'
    exact course
  | advance visited decides pursued ih =>
    obtain ⟨trail, left, pursued', course⟩ :=
      ih.advance h met decides (guided _ visited _ _ _ decides)
    cases pursued.symm.trans pursued'
    exact course
  | backtrack visited decides pursued resumed ih =>
    -- There is no conflict to retreat from.
    obtain ⟨trail, left, pursued', course⟩ :=
      ih.advance h met decides (guided _ visited _ _ _ decides)
    cases pursued.symm.trans pursued'

/-- A guided search comes by a place where everything has a value. -/
theorem Visits.exists_last (visited : problem.Visits chooser budget source here)
    (h : problem.Scoped) (met : problem.SatisfiedBy v) (enough : problem.straightSteps ≤ budget)
    (guided : problem.Guides chooser budget source v) :
    ∃ last, problem.Visits chooser budget source last ∧
      skipAssigned last.trail last.pending = [] := by
  -- Every decision takes a step.
  induction left : here.left using Nat.strong_induction_on generalizing here with
  | _ n ih =>
    cases next : skipAssigned here.trail here.pending with
    | nil => exact ⟨here, visited, next⟩
    | cons p rest =>
      have decides : problem.Decides chooser here ⟨p, (chooser.polarity (problem.prior p)
          here.source).1, false, here.trail.height⟩ rest
          (chooser.polarity (problem.prior p) here.source).2 := ⟨next, rfl, rfl, rfl⟩
      obtain ⟨trail, left', pursued, -⟩ := (visited.onCourse h met enough guided).advance h met
        decides (guided _ visited _ _ _ decides)
      have fewer := Decision.left_lt_of_pursue pursued (by simp)
      exact ih left' (left ▸ fewer) (visited.advance decides pursued) rfl

/-- Where everything has a value that agrees with a valuation, the truth values are its own. -/
theorem toList_assignment_of_completes (size : trail.values.size = problem.size)
    (completes : v.Completes trail.at?)
    (known : ∀ p ∈ problem.propositions, (trail.at? p).isSome = true) :
    trail.assignment.toList = problem.propositions.map v := by
  have length : trail.assignment.toList.length = (problem.propositions.map v).length := by
    simp [Trail.assignment, propositions, size]
  refine List.ext_getElem length fun i inside inside' => ?_
  have own : (⟨i⟩ : Proposition) ∈ problem.propositions := by
    simpa [mem_propositions, Has, propositions] using inside'
  obtain ⟨b, value⟩ := Option.isSome_iff_exists.mp (known _ own)
  have here := trail.getD_assignment ⟨i⟩
  rw [value, Option.getD_some, ← completes _ _ value] at here
  have within : i < trail.assignment.size := by simpa using inside
  simpa [propositions, within] using here

/-- A search that has enough steps and draws the values of a valuation that meets all constraints
finds just this valuation, in whatever order it decides, and never backtracks. -/
theorem solve_of_guides (built : problem.Built) (met : problem.SatisfiedBy v)
    (enough : problem.straightSteps ≤ budget)
    (guided : problem.Guides chooser budget source v) :
    (∃ solution source', problem.solve chooser budget source = (.ok solution, source') ∧
      solution.assignment.toList = problem.propositions.map v) ∧
    problem.NeverBacktracks chooser budget source := by
  have h := built.scoped
  have perm := chooser.order_perm problem.propositions source
  constructor
  · obtain ⟨trail, left, settled, -⟩ := onCourse_start h met enough _ perm source
    obtain ⟨last, visited, done⟩ := (Visits.start settled).exists_last h met enough guided
    have course := visited.onCourse h met enough guided
    have found : problem.search chooser budget source =
        (.found last.trail last.left, last.source) := by
      rw [visited.search_eq, descend]
      split <;> simp_all
    rw [solve_of_found found]
    refine ⟨_, _, rfl, toList_assignment_of_completes course.size course.completes ?_⟩
    intro p own
    exact course.reached.finished done (perm.mem_iff.mpr own)
  · intro here visited decision rest source' decides
    obtain ⟨trail, left, pursued, -⟩ := (visited.onCourse h met enough guided).advance h met
      decides (guided here visited decision rest source' decides)
    rw [pursued]

end Problem

/-! ## Rain -/

/-- Choices that are recited: propositions last to first, and truth values from a list. -/
def Chooser.recited : Chooser (List Bool) where
  order propositions source := (propositions.reverse, source)
  polarity _ source := (source.headD false, source.tail)
  number low _ source := (low, source)
  order_perm propositions _ := propositions.reverse_perm

namespace Problem

/-- There is rain and no sun. -/
def rainy : Valuation := fun p => p == rain

theorem satisfiedBy_rainy : weather.SatisfiedBy rainy := by
  unfold SatisfiedBy
  decide

theorem straightSteps_weather : weather.straightSteps = 11 := by
  rw [straightSteps, occurrences_weather, size_weather]
  decide

/-- The first decision is about rain, and settles everything. -/
theorem visits_rainy {here : Standing (List Bool)}
    (visited : weather.Visits .recited 20 [true] here) :
    here = ⟨17, [], [rain, sun], .blank 2, [true]⟩ ∨
      skipAssigned here.trail here.pending = [] := by
  have pursue_rain : Decision.pursue weather.occurrences ⟨rain, true, false, 0⟩ 17 (.blank 2) =
      ⟨.quiet, ⟨#[some false, some true], #[rain, sun]⟩, 10⟩ := by
    rw [occurrences_weather]
    cbv
  have first {decision : Decision} {rest : List Proposition} {source : List Bool}
      (decides : weather.Decides .recited ⟨17, [], [rain, sun], .blank 2, [true]⟩ decision rest
        source) : decision = ⟨rain, true, false, 0⟩ ∧ rest = [sun] := by
    obtain ⟨p, value, flipped, height⟩ := decision
    obtain ⟨next, drawn, rfl, rfl⟩ := decides
    cases next
    cases drawn
    exact ⟨rfl, rfl⟩
  induction visited with
  | start settled =>
    rw [settle_weather] at settled
    cases settled
    rw [propositions_weather]
    exact .inl rfl
  | advance visited decides pursued ih =>
    rcases ih with rfl | done
    · obtain ⟨rfl, rfl⟩ := first decides
      cases pursue_rain.symm.trans pursued
      exact .inr rfl
    · cases done.symm.trans decides.next
  | backtrack visited decides pursued resumed ih =>
    rcases ih with rfl | done
    · obtain ⟨rfl, -⟩ := first decides
      cases pursue_rain.symm.trans pursued
    · cases done.symm.trans decides.next

theorem guides_rainy : weather.Guides .recited 20 [true] rainy := by
  intro here visited decision rest source decides
  rcases visits_rainy visited with rfl | done
  · obtain ⟨p, value, flipped, height⟩ := decision
    obtain ⟨next, drawn, -, -⟩ := decides
    cases next
    cases drawn
    rfl
  · cases done.symm.trans decides.next

/-- Who recites that there is rain finds that there is rain and no sun, without trying sun. -/
theorem solve_rainy : weather.straightSteps ≤ 20 ∧ weather.Guides .recited 20 [true] rainy ∧
    (∃ solution source', weather.solve .recited 20 [true] = (.ok solution, source') ∧
      solution.assignment.toList = [false, true]) ∧ weather.NeverBacktracks .recited 20 [true] := by
  have enough : weather.straightSteps ≤ 20 := by rw [straightSteps_weather]; decide
  obtain ⟨found, straight⟩ := solve_of_guides built_weather satisfiedBy_rainy enough guides_rainy
  rw [propositions_weather] at found
  exact ⟨enough, guides_rainy, found, straight⟩

end Problem

end Worldsmith
