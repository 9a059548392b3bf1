import Worldsmith.Proofs.Blueprint.Naming
import Worldsmith.Proofs.Trials.Imagining
import Worldsmith.Trials.Survey

/-!
# What the counts of a survey add up to

A survey counts in how many models the first requested being has each quality. Every model is one
of the same request, so that its being is of the requested kind, and of just one of the kinds just
below each kind that it is of. So the counts of these kinds add up to the count of that kind.

## Main definitions

* `Engine.outcomes` — what comes of searches for a model, one after another.
* `Survey.models` — what has been found by some searches.
* `Survey.Counts` — a survey has counted the qualities of a being in what was found.

## Main statements

* `Survey.Counts.steps` — a survey counts what its searches find, and those that find nothing.
* `Survey.report_steps` — counts add up once all searches have been made.
-/

namespace Worldsmith

/-! ## Counting in two ways -/

section Counting

variable {α β : Type} {xs : List α} {ys : List β} {p : α → Bool} {holds : β → α → Bool}

theorem sum_map_ite (p : α → Bool) (xs : List α) :
    (xs.map fun x => if p x = true then 1 else 0).sum = xs.countP p := by
  induction xs with
  | nil => rfl
  | cons x xs ih => rw [List.map_cons, List.sum_cons, ih, List.countP_cons, Nat.add_comm]

/-- If just one of some properties holds of what is so, and none of anything else, what they hold
of adds up to what is so. -/
theorem sum_map_countP (each : ∀ x ∈ xs,
    ys.countP (holds · x) = if p x = true then 1 else 0) :
    (ys.map fun y => xs.countP (holds y)).sum = xs.countP p := by
  induction xs with
  | nil => simp
  | cons x xs ih =>
    obtain ⟨first, rest⟩ := List.forall_mem_cons.mp each
    simp only [List.countP_cons, List.sum_map_add, ih rest, sum_map_ite, first]

end Counting

/-! ## The first being of a model -/

namespace Model

variable {m : Model} {i : Nat} {kind : Id .kind}

/-- A being is of one of the kinds just below each kind that it is of, and of none just below any
other. -/
theorem Conforms.countP_subkinds (conforms : m.Conforms i)
    (some_subkind : (m.world.kind kind).subkinds ≠ []) :
    (m.world.kind kind).subkinds.eraseDups.countP (m.isOf i) =
      if m.isOf i kind = true then 1 else 0 := by
  split_ifs with isOf
  · exact countP_eraseDups_eq_one_iff.mpr (conforms.existsUnique_subkind kind isOf some_subkind)
  · refine List.countP_eq_zero.mpr fun sub mem => ?_
    have isNot := conforms.subkinds kind (Bool.eq_false_iff.mpr isOf) sub
      (List.mem_eraseDups.mp mem)
    simp [isNot]

end Model

/-- What comes of some searches for a model of a blueprint, one after another. -/
def Engine.outcomes (blueprint : Blueprint) : ℕ → Engine → List (Except SearchFailure Model)
  | 0, _ => []
  | count + 1, engine =>
    (engine.model blueprint).1 :: outcomes blueprint count (engine.model blueprint).2

theorem Engine.length_outcomes (blueprint : Blueprint) (count : ℕ) (engine : Engine) :
    (engine.outcomes blueprint count).length = count := by
  induction count generalizing engine with
  | zero => rfl
  | succ count ih => exact congrArg (· + 1) (ih _)

theorem Engine.isSolved_of_mem_outcomes {blueprint : Blueprint} {count : ℕ} {engine : Engine}
    {m : Model} (built : blueprint.problem.Built) (mem : .ok m ∈ engine.outcomes blueprint count) :
    m.blueprint = blueprint ∧ m.IsSolved := by
  induction count generalizing engine with
  | zero => cases mem
  | succ count ih =>
    rcases List.mem_cons.mp mem with found | later
    · exact isSolved_of_model built found.symm
    · exact ih later

namespace Survey

variable {world : World} {request : Request} {trials first : Nat}
  {outcomes : List (Except SearchFailure Model)} {survey : Survey} {engine : Engine}
  {kind sub : Id .kind} {quality : Quality}

/-! ## Qualities of interest -/

theorem kind_mem_qualities_iff :
    .kind sub ∈ qualities world kind ↔ sub ∈ world.descendants kind := by
  simp [qualities]

theorem kind_mem_qualities_of_below (hierarchy : world.IsHierarchy) {sub parent : Id .kind}
    (mem : .kind parent ∈ qualities world kind) (below : sub ∈ (world.kind parent).subkinds) :
    .kind sub ∈ qualities world kind := by
  rw [kind_mem_qualities_iff, World.mem_descendants_iff hierarchy] at mem ⊢
  exact .head ((hierarchy.mirrored sub parent).mp below) mem

theorem nodup_qualities (world : World) (kind : Id .kind) : (qualities world kind).Nodup :=
  nodup_eraseDups _

/-! ## Searches -/

theorem step_of_isDone (done : survey.isDone = true) : survey.step engine = (survey, engine) := by
  rw [step, if_pos done]

/-- The models that some searches have found. -/
def models (outcomes : List (Except SearchFailure Model)) : List Model :=
  outcomes.filterMap Except.toOption

theorem mem_models_iff {m : Model} : m ∈ models outcomes ↔ .ok m ∈ outcomes := by
  simp only [models, List.mem_filterMap]
  constructor
  · rintro ⟨_ | found, mem, same⟩
    · cases same
    · cases same
      exact mem
  · exact fun mem => ⟨_, mem, rfl⟩

@[simp] theorem models_cons_ok (m : Model) :
    models (.ok m :: outcomes) = m :: models outcomes := rfl

@[simp] theorem models_cons_error (failure : SearchFailure) :
    models (.error failure :: outcomes) = models outcomes := rfl

theorem models_append (outcomes later : List (Except SearchFailure Model)) :
    models (outcomes ++ later) = models outcomes ++ models later :=
  List.filterMap_append

/-- Each search has found a model or has failed. -/
theorem length_models (outcomes : List (Except SearchFailure Model)) :
    (models outcomes).length + outcomes.countP (!·.isOk) = outcomes.length := by
  induction outcomes with
  | nil => rfl
  | cons outcome rest ih =>
    rw [List.length_cons, ← ih, List.countP_cons]
    cases outcome with
    | error => exact (Nat.add_assoc _ _ _).symm
    | ok m => exact Nat.add_right_comm _ _ _

/-- Whether a survey has counted the qualities of a being in all models that some searches for a
request have found, and the searches that have found none. -/
structure Counts (world : World) (request : Request) (trials first : Nat)
    (outcomes : List (Except SearchFailure Model)) (survey : Survey) : Prop where
  blueprint_eq : survey.blueprint = .ofRequest world request
  trials_eq : survey.trials = trials
  completed : survey.completed = outcomes.length
  failures : survey.failures = outcomes.countP (!·.isOk)
  tallies : survey.tallies = (qualities world request.kind).map fun quality =>
    ⟨quality, (models outcomes).countP (·.hasQuality first quality)⟩

theorem counts_start (world : World) (request : Request) (trials first : Nat) :
    (start world request trials).Counts world request trials first [] :=
  ⟨rfl, rfl, rfl, rfl, rfl⟩

namespace Counts

theorem isDone_iff (counts : survey.Counts world request trials first outcomes) :
    survey.isDone = true ↔ trials ≤ outcomes.length := by
  rw [isDone, counts.trials_eq, counts.completed, decide_eq_true_iff]

theorem found (counts : survey.Counts world request trials first outcomes) {m : Model}
    (made : m.blueprint = .ofRequest world request)
    (head : (Blueprint.ofRequest world request).requested.head? = some first) :
    ({ survey with completed := survey.completed + 1 }.count m).Counts world request trials first
      (outcomes ++ [Except.ok m]) := by
  unfold Survey.count
  rw [made, head]
  refine ⟨counts.blueprint_eq, counts.trials_eq, ?_, ?_, ?_⟩
  · simp [counts.completed]
  · simp [counts.failures, Except.isOk, Except.toBool]
  · simp only [counts.tallies, List.map_map]
    refine List.map_congr_left fun quality _ => ?_
    rw [models_append, List.countP_append, models_cons_ok, Function.comp_apply, List.countP_cons]
    dsimp only
    split_ifs <;> rfl

theorem failed (counts : survey.Counts world request trials first outcomes)
    (failure : SearchFailure) :
    ({ survey with
      completed := survey.completed + 1
      failures := survey.failures + 1 } : Survey).Counts world request trials first
        (outcomes ++ [Except.error failure]) := by
  refine ⟨counts.blueprint_eq, counts.trials_eq, ?_, ?_, ?_⟩
  · simp [counts.completed]
  · simp [counts.failures, Except.isOk, Except.toBool]
  · rw [models_append, models_cons_error]
    exact (List.append_nil (models outcomes)).symm ▸ counts.tallies

/-- As long as not all searches have been made, a step makes one more and counts what comes of
it. -/
theorem step (counts : survey.Counts world request trials first outcomes)
    (head : (Blueprint.ofRequest world request).requested.head? = some first) (engine : Engine)
    (more : outcomes.length < trials) :
    (survey.step engine).1.Counts world request trials first
        (outcomes ++ [(engine.model (.ofRequest world request)).1]) ∧
      (survey.step engine).2 = (engine.model (.ofRequest world request)).2 := by
  have undone : ¬ survey.isDone = true := fun done => absurd (counts.isDone_iff.mp done)
    (Nat.not_le.mpr more)
  have built := (Blueprint.complete_ofRequest world request).1.valid.built
  have search : engine.model survey.blueprint = engine.model (.ofRequest world request) :=
    congrArg engine.model counts.blueprint_eq
  rw [Survey.step, if_neg undone, search]
  rcases outcome : engine.model (.ofRequest world request) with ⟨failure | m, later⟩
  · exact ⟨counts.failed failure, rfl⟩
  · have made := (Engine.isSolved_of_model built (congrArg Prod.fst outcome)).1
    exact ⟨counts.found made head, rfl⟩

/-- As many searches are made as there are steps, but no more than there are to be. -/
theorem steps (counts : survey.Counts world request trials first outcomes)
    (head : (Blueprint.ofRequest world request).requested.head? = some first) (count : Nat)
    (engine : Engine) :
    (Survey.steps count survey engine).1.Counts world request trials first (outcomes ++
      engine.outcomes (.ofRequest world request) (min count (trials - outcomes.length))) := by
  induction count generalizing survey engine outcomes with
  | zero =>
    rw [Nat.zero_min]
    exact (List.append_nil outcomes).symm ▸ counts
  | succ count ih =>
    by_cases more : outcomes.length < trials
    · obtain ⟨counts', same⟩ := counts.step head engine more
      have one : min (count + 1) (trials - outcomes.length) =
          min count (trials - (outcomes ++
            [(engine.model (.ofRequest world request)).1]).length) + 1 := by
        rw [List.length_append, List.length_singleton]
        omega
      rw [one, Engine.outcomes, ← same, List.append_cons]
      exact ih counts' (survey.step engine).2
    · have done : survey.isDone = true := counts.isDone_iff.mpr (Nat.not_lt.mp more)
      have none : trials - outcomes.length = 0 := Nat.sub_eq_zero_of_le (Nat.not_lt.mp more)
      have still := ih counts engine
      rw [none, Nat.min_zero] at still ⊢
      rw [Survey.steps, step_of_isDone done]
      exact still

theorem rows (counts : survey.Counts world request trials first outcomes) :
    survey.report.rows = (qualities world request.kind).map fun quality =>
      (world.qualityName quality, (models outcomes).countP (·.hasQuality first quality)) := by
  have same := (Blueprint.complete_ofRequest world request).2.1
  simp only [report, counts.tallies, counts.blueprint_eq, same, List.map_map, Function.comp_def]

end Counts

/-- The being that is counted is what the world says, and of the requested kind. -/
theorem conforms_of_mem_models
    (head : (Blueprint.ofRequest world request).requested.head? = some first)
    (hierarchy : world.IsHierarchy) (named : world.IsWellNamed) {count : ℕ} {m : Model}
    (mem : m ∈ models (engine.outcomes (.ofRequest world request) count)) :
    m.world = world ∧ m.Conforms first ∧ m.isOf first request.kind = true := by
  obtain ⟨complete, same, -, -, each⟩ := Blueprint.complete_ofRequest world request
  obtain ⟨inside, kinds, -⟩ := each first (List.mem_of_mem_head? head)
  obtain ⟨made, solved⟩ := Engine.isSolved_of_mem_outcomes complete.valid.built
    (mem_models_iff.mp mem)
  have world_eq : m.world = world := by rw [Model.world, made, same]
  have conforms : m.Conforms first := Model.conforms (made ▸ complete) solved
    (world_eq ▸ hierarchy) (world_eq ▸ named) (by rwa [Model.size, made])
  obtain ⟨declared, among, below⟩ := Blueprint.exists_mem_declaredKinds hierarchy
    request.kind request.modifiers
  refine ⟨world_eq, conforms, conforms.declared declared ?_ request.kind (world_eq ▸ below)⟩
  rwa [Model.being, made, kinds]

/-! ## Reports -/

/-- Once all searches have been made, their number is the one that was asked for, and those are
counted that have found nothing. Each quality has one row, with the number of models found in which
it holds of the first being that was requested, which is none of more models than were found, the
requested kind is counted in all of them, and what is counted of the kinds just below a kind adds up
to what is counted of it. -/
theorem report_steps (hierarchy : world.IsHierarchy) (named : world.IsWellNamed)
    (request : Request) (some_being : 0 < request.count) (trials count : Nat) (engine : Engine) :
    let survey := (steps count (start world request trials) engine).1
    let outcomes := engine.outcomes (.ofRequest world request) trials
    (survey.isDone = true ↔ trials ≤ count) ∧
      (survey.isDone = true →
        let report := survey.report
        outcomes.length = trials ∧ report.trials = trials ∧
          report.failures = outcomes.countP (!·.isOk) ∧ report.failures ≤ trials ∧
          (models outcomes).length = trials - report.failures ∧
          ∃ first, (Blueprint.ofRequest world request).requested.head? = some first ∧
            let often := fun quality => (models outcomes).countP (·.hasQuality first quality)
            report.rows = (qualities world request.kind).map (fun quality =>
              (world.qualityName quality, often quality)) ∧
            (qualities world request.kind).Nodup ∧
            (∀ row ∈ report.rows, row.2 ≤ trials - report.failures) ∧
            .kind request.kind ∈ qualities world request.kind ∧
            often (.kind request.kind) = trials - report.failures ∧
            ∀ kind, .kind kind ∈ qualities world request.kind →
              (world.kind kind).subkinds ≠ [] →
                (∀ sub ∈ (world.kind kind).subkinds,
                  .kind sub ∈ qualities world request.kind) ∧
                ((world.kind kind).subkinds.eraseDups.map fun sub => often (.kind sub)).sum =
                  often (.kind kind)) := by
  have length := (Blueprint.complete_ofRequest world request).2.2.1
  obtain ⟨first, head⟩ : ∃ i, (Blueprint.ofRequest world request).requested.head? = some i :=
    Option.isSome_iff_exists.mp (List.isSome_head?.mpr (List.ne_nil_of_length_pos (by omega)))
  intro survey outcomes
  have counts := (counts_start world request trials first).steps head count engine
  rw [List.nil_append, List.length_nil, Nat.sub_zero] at counts
  have isDone : survey.isDone = true ↔ trials ≤ count := by
    rw [counts.isDone_iff, Engine.length_outcomes]
    omega
  refine ⟨isDone, fun done => ?_⟩
  rw [Nat.min_eq_right (isDone.mp done)] at counts
  have searches : outcomes.length = trials := Engine.length_outcomes _ _ _
  have found := length_models outcomes
  have failures : survey.report.failures = outcomes.countP (!·.isOk) := counts.failures
  have successes : (models outcomes).length = trials - outcomes.countP (!·.isOk) := by omega
  have conforms {m : Model} (mem : m ∈ models outcomes) :=
    conforms_of_mem_models head hierarchy named mem
  dsimp only
  rw [failures]
  refine ⟨searches, counts.completed.trans searches, rfl, by omega, successes, first, head,
    counts.rows, nodup_qualities world request.kind, ?_, ?_, ?_, ?_⟩
  · rw [counts.rows]
    intro row mem
    obtain ⟨quality, -, rfl⟩ := List.mem_map.mp mem
    exact List.countP_le_length.trans successes.le
  · exact kind_mem_qualities_iff.mpr (world.mem_descendants_self request.kind)
  · have every : (models outcomes).countP (·.hasQuality first (.kind request.kind)) =
        (models outcomes).length :=
      List.countP_eq_length.mpr fun m mem => (conforms mem).2.2
    exact every.trans successes
  · intro kind mem some_subkind
    refine ⟨fun sub => kind_mem_qualities_of_below hierarchy mem, sum_map_countP fun m mem => ?_⟩
    obtain ⟨rfl, conforms, -⟩ := conforms mem
    exact conforms.countP_subkinds some_subkind

/-- As often as there is an animal in the zoo, it is a cat. -/
theorem report_steps_zoo : Zoo.world.IsHierarchy ∧ Zoo.world.IsWellNamed ∧
    0 < Zoo.request.count ∧
    let report := (steps 3 (start Zoo.world Zoo.request 3) (.ofSeed 0 100)).1.report
    report.trials = 3 ∧
      report.rows = [("animal", 3 - report.failures), ("cat", 3 - report.failures)] := by
  refine ⟨Zoo.isHierarchy_world, Zoo.isWellNamed_world, by decide, ?_⟩
  obtain ⟨isDone, report⟩ := report_steps Zoo.isHierarchy_world Zoo.isWellNamed_world
    Zoo.request (by decide) 3 3 (.ofSeed 0 100)
  obtain ⟨-, trials, -, -, -, first, -, rows, -, -, -, animals, sums⟩ := report (isDone.mpr le_rfl)
  generalize (fun quality => List.countP (·.hasQuality first quality) (models
    ((Engine.ofSeed 0 100).outcomes (.ofRequest Zoo.world Zoo.request) 3))) = often
    at rows animals sums
  have animals : often (.kind Zoo.animal) = _ := animals
  have cats : often (.kind Zoo.cat) = often (.kind Zoo.animal) :=
    (sums Zoo.animal (by decide) (by decide)).2
  have qualities : qualities Zoo.world Zoo.request.kind = [.kind Zoo.animal, .kind Zoo.cat] := by
    decide
  refine ⟨trials, rows.trans ?_⟩
  rw [qualities]
  change [("animal", often (.kind Zoo.animal)), ("cat", often (.kind Zoo.cat))] = _
  rw [cats, animals]

end Survey

end Worldsmith
