import Worldsmith.Proofs.Blueprint.Agreement
import Worldsmith.Proofs.Comparison.Properties

/-!
# Beings side by side

The work on beings goes on side by side in two blueprints: the same tasks come up in the same order,
and what each of them writes down on the one side says what it writes down on the other.

## Main statements

* `Blueprint.inStep_work` — all tasks are done side by side.
* `Blueprint.Matches.addRequested` — beings are requested side by side.
-/

namespace Worldsmith

namespace Blueprint

variable {b b' c c' : Blueprint} {i : Nat} {kind : Id .kind} {p p' : Proposition}
  {trait : Trait} {l : Literal} {constraint constraint' : Constraint} {x y : Being}
  {perform : Task → Blueprint → Blueprint}

/-! ## New beings -/

theorem being_push_eq (b : Blueprint) (x : Being) (counters : Std.HashMap String Nat) (i : Nat) :
    (b.push x counters).being i = if i = b.beings.size then x else b.being i := by
  rcases Nat.lt_trichotomy i b.beings.size with lt | rfl | gt
  · rw [if_neg lt.ne]
    exact being_push_of_lt lt
  · rw [if_pos rfl, being_push]
  · rw [if_neg gt.ne', being_of_size_le gt.le, being_of_size_le (size_push ▸ gt)]

/-- No value is fixed of a new being if none is of the individual that it is. -/
theorem fixedValue?_push_of_bare {counters : Std.HashMap String Nat} {id : Id .property}
    (bare : ∀ individual, x.permanent = some individual →
      (b.world.individual individual).properties = []) :
    (b.push x counters).fixedValue? b.beings.size id = none := by
  rw [fixedValue?, being_push, Option.bind_eq_none_iff]
  intro individual same
  have none : (b.world.individual individual).properties = [] := bare individual same
  rw [push, none]
  rfl

theorem extends_pushed (b : Blueprint) (x : Being) (counters : Std.HashMap String Nat) :
    b.Extends (b.push x counters) :=
  have pushed := extends_push b x
  ⟨pushed.world, pushed.problem, pushed.size_le, pushed.essence, pushed.asserted, pushed.expanded⟩

theorem Valid.pushed (valid : b.Valid) (x : Being) (counters : Std.HashMap String Nat) :
    (b.push x counters).Valid :=
  have grows := extends_pushed b x counters
  ⟨valid.built, fun i kind mem => grows.lt_size (valid.asserted_lt i kind mem),
    fun i kind mem => grows.lt_size (valid.expanded_lt i kind mem),
    fun i kind mem => (valid.excluded i kind mem).imp grows.lt_size fun denies =>
      grows.denies (valid.excluded i kind mem).1 denies, valid.relations, valid.relationIndex⟩

theorem Valid.setRequested (valid : b.Valid) (requested : List Nat) :
    Valid { b with requested := requested } :=
  have grows := b.extends_requested requested
  ⟨valid.built, valid.asserted_lt, valid.expanded_lt,
    fun i kind mem => (valid.excluded i kind mem).imp_right fun denies =>
      grows.denies (valid.excluded i kind mem).1 denies, valid.relations, valid.relationIndex⟩

/-! ## One side only -/

namespace Matches

variable (h : b.Matches b')
include h

/-- The first side goes on alone. -/
theorem goLeft (step : b.Advances c) (same : b.Quiet c) : Together b b' c b' :=
  h.quiet step same (.refl h.valid') (.refl b') fun _ => .inl

/-- The second side demands what the first demands already. -/
theorem addRight (demands : b.Demands constraint)
    (echoes : constraint.Echoes (b.Echo b') constraint') :
    Together b b' b (b'.modifyProblem (·.add constraint')) := by
  obtain ⟨-, own'⟩ := echoes.propositions
  obtain ⟨step', -⟩ := h.valid'.advances_add fun p hp => (own' p hp).choose_spec.has.2
  refine h.quiet (.refl h.valid) (.refl b) step' (.modifyProblem (.refl b') _) fun other mem => ?_
  refine (Problem.mem_constraints_add.mp mem).imp_right ?_
  rintro rfl
  exact .inl ⟨constraint, demands, echoes.mono fun echo => echo.later (.refl b) step'.grows⟩

/-- The second side speaks of what the first speaks of already. -/
theorem literalRight (hi : i < b.beings.size) (denotes : b.Denotes l i trait) :
    Together b b' b (b'.literal i trait).2 ∧
      l.Echoes (b.Echo (b'.literal i trait).2) (b'.literal i trait).1 := by
  obtain ⟨step', denotes'⟩ := h.valid'.literal (h.lt_size hi) trait
  have echoes : l.Echoes (b.Echo (b'.literal i trait).2) (b'.literal i trait).1 :=
    ⟨⟨.quality i trait.quality, ⟨hi, denotes.names.name?⟩,
      ⟨step'.grows.lt_size (h.lt_size hi), denotes'.names.name?⟩⟩,
      denotes.positive.trans denotes'.positive.symm⟩
  refine ⟨h.quiet (.refl h.valid) (.refl b) step' (quiet_literal b' i trait) ?_, echoes⟩
  obtain ⟨quality, positive⟩ := trait
  cases quality with
  | kind kind =>
    intro constraint' demands
    refine (demands_isOf demands).imp_right ?_
    rintro ⟨could, rfl⟩
    have denied := denotes.names.denied kind rfl (h.couldBe_eq i kind ▸ could)
    exact .inl ⟨_, denied, .clause (.cons (.negative echoes.1) .nil)⟩
  | adjective adjective => exact fun _ => .inl

/-- The second side asserts what the first has asserted already. -/
theorem assertRight (hi : i < b.beings.size) (claims : b.Claims i trait) :
    Together b b' b (Blueprint.assertTrait i b' trait) := by
  obtain ⟨l, denotes, demands⟩ := claims
  obtain ⟨made, echoes⟩ := h.literalRight hi denotes
  exact made.trans (made.matched.addRight demands (.clause (.cons echoes .nil)))

/-- The second side asserts only what the first has asserted already. -/
theorem assertAllRight (hi : i < b.beings.size) (traits : List Trait)
    (claims : ∀ trait ∈ traits, b.Claims i trait) :
    Together b b' b (traits.foldl (Blueprint.assertTrait i) b') := by
  induction traits generalizing b' with
  | nil => exact .refl h
  | cons trait rest ih =>
    obtain ⟨now, later⟩ := List.forall_mem_cons.mp claims
    have first := h.assertRight hi now
    exact first.trans (ih first.matched later)

/-- The second side asserts some of the traits that the first asserts, in whatever order. -/
theorem assertTraits (hi : i < b.beings.size) {traits traits' : List Trait}
    (sub : ∀ trait ∈ traits', trait ∈ traits) :
    Together b b' (traits.foldl (Blueprint.assertTrait i) b)
      (traits'.foldl (Blueprint.assertTrait i) b') := by
  obtain ⟨step, claims⟩ := Advances.foldl_done traits (fun b trait => b.Claims i trait) h.valid
    (fun grows later => later.claims (grows.lt_size hi))
    fun _ step trait _ => step.valid.assertTrait (step.grows.lt_size hi) trait
  have left := h.goLeft step (.foldl (quiet_assertTrait i) traits b)
  exact left.trans (left.matched.assertAllRight (left.lt_size hi) traits'
    fun trait mem => claims trait (sub trait mem))

/-- The propositions of adjectives may be made on either side. -/
theorem makeAdjectives (hi : i < b.beings.size) (adjectives adjectives' : List (Id .adjective)) :
    Together b b' (adjectives.foldl (fun b adjective => (b.has i adjective).2) b)
      (adjectives'.foldl (fun b adjective => (b.has i adjective).2) b') := by
  have made {b : Blueprint} (valid : b.Valid) (hi : i < b.beings.size)
      (adjectives : List (Id .adjective)) :
      b.Advances (adjectives.foldl (fun b adjective => (b.has i adjective).2) b) :=
    Advances.foldl adjectives (.refl valid) fun _ h adjective _ =>
      (h.valid.has (h.grows.lt_size hi) adjective).1
  have quiet (b : Blueprint) (adjectives : List (Id .adjective)) :
      b.Quiet (adjectives.foldl (fun b adjective => (b.has i adjective).2) b) :=
    .foldl (fun b adjective => quiet_has b i adjective) adjectives b
  refine h.quiet (made h.valid hi adjectives) (quiet b adjectives)
    (made h.valid' (h.lt_size hi) adjectives') (quiet b' adjectives') fun constraint' demands => ?_
  have same : (adjectives'.foldl (fun b adjective => (b.has i adjective).2) b').problem.constraints
      = b'.problem.constraints := by
    clear demands h
    induction adjectives' generalizing b' with
    | nil => rfl
    | cons adjective rest ih => exact ih
  exact .inl (by rwa [Demands, same] at demands)

/-! ## Marks and new beings -/

/-- The same memberships are marked on both sides. -/
theorem mark {asserted expanded : Std.HashSet (Nat × Id .kind)}
    (sub : ∀ m ∈ b.asserted, m ∈ asserted) (sub' : ∀ m ∈ b.expanded, m ∈ expanded)
    (lt : ∀ j other, (j, other) ∈ asserted → j < b.beings.size)
    (lt' : ∀ j other, (j, other) ∈ expanded → j < b.beings.size) :
    Together b b' { b with asserted := asserted, expanded := expanded }
      { b' with asserted := asserted, expanded := expanded } := by
  have same := h.size
  exact h.goOn (.mark sub sub') (.mark (h.asserted ▸ sub) (h.expanded ▸ sub'))
    (h.valid.mark lt lt') (h.valid'.mark (same ▸ lt) (same ▸ lt')) h.size h.beings h.fixed rfl rfl
    ⟨rfl, rfl⟩ ⟨rfl, rfl⟩ fun _ => .inl

theorem markAsserted (hi : i < b.beings.size) (kind : Id .kind) :
    Together b b' { b with asserted := b.asserted.insert (i, kind) }
      { b' with asserted := b.asserted.insert (i, kind) } := by
  rw [h.expanded]
  refine h.mark (fun _ mem => Std.HashSet.mem_insert.mpr (.inr mem)) (fun _ mem => mem)
    (fun j other mem => ?_) h.valid.expanded_lt
  exact (of_mem_insert (P := fun j _ => j < b.beings.size) hi j other mem).elim
    (h.valid.asserted_lt j other) id

theorem markExpanded (hi : i < b.beings.size) (kind : Id .kind) :
    Together b b' { b with expanded := b.expanded.insert (i, kind) }
      { b' with expanded := b.expanded.insert (i, kind) } := by
  rw [h.asserted]
  refine h.mark (fun _ mem => mem) (fun _ mem => Std.HashSet.mem_insert.mpr (.inr mem))
    h.valid.asserted_lt fun j other mem => ?_
  exact (of_mem_insert (P := fun j _ => j < b.beings.size) hi j other mem).elim
    (h.valid.expanded_lt j other) id

/-- New beings that are alike take the next place on both sides. -/
theorem push (alike : x.Resembles b.world y) (counters counters' : Std.HashMap String Nat)
    (fixed : ∀ id, (b'.push y counters').fixedValue? b'.beings.size id =
      (b.push x counters).fixedValue? b.beings.size id) :
    Together b b' (b.push x counters) (b'.push y counters') := by
  have same := h.size
  refine h.goOn (extends_pushed b x counters) (extends_pushed b' y counters')
    (h.valid.pushed x counters) (h.valid'.pushed y counters') ?_ (fun i => ?_) (fun i id => ?_)
    h.asserted h.expanded ⟨rfl, rfl⟩ ⟨rfl, rfl⟩ fun _ => .inl
  · rw [size_push, size_push, same]
  · rw [being_push_eq, being_push_eq, same]
    split_ifs
    · exact alike
    · exact h.beings i
  · by_cases last : i = b.beings.size
    · rw [last, ← fixed, same]
    · rw [fixedValue?, fixedValue?, being_push_eq, being_push_eq, same, if_neg last, if_neg last]
      exact h.fixed i id

/-- It does not matter which beings were asked for. -/
theorem setRequested (requested requested' : List Nat) :
    Together b b' { b with requested := requested } { b' with requested := requested' } :=
  h.goOn (b.extends_requested requested) (b'.extends_requested requested')
    (h.valid.setRequested requested) (h.valid'.setRequested requested') h.size h.beings h.fixed
    h.asserted h.expanded ⟨rfl, rfl⟩ ⟨rfl, rfl⟩ fun _ => .inl

end Matches

/-! ## Tasks -/

/-- Whether a way of doing tasks does each of them side by side. -/
def InStep (perform : Task → Blueprint → Blueprint) : Prop :=
  ∀ {b b' : Blueprint} (task : Task), b.Matches b' → task.about < b.beings.size →
    Together b b' (perform task b) (perform task b')

namespace InStep

variable (inStep : InStep perform) (h : b.Matches b')
include inStep h

/-- A being is declared to be of the same kinds, and to have the same traits or fewer. -/
theorem declare (hi : i < b.beings.size) (kinds : List (Id .kind))
    {modifiers modifiers' : List Trait} (sub : ∀ trait ∈ modifiers', trait ∈ modifiers) :
    Together b b' (declare perform i kinds modifiers b)
      (Blueprint.declare perform i kinds modifiers' b') := by
  have classified := Together.foldl (f := fun b kind => perform (.declare i kind) b)
    (g := fun b kind => perform (.declare i kind) b) kinds h fun c c' together kind _ =>
      inStep (.declare i kind) together.matched (together.lt_size hi)
  exact classified.trans (classified.matched.assertTraits (classified.lt_size hi) sub)

theorem assertMembership (hi : i < b.beings.size) (kind : Id .kind) :
    Together b b' (assertMembership perform i kind b)
      (Blueprint.assertMembership perform i kind b') := by
  have unfolded (b : Blueprint) : Blueprint.assertMembership perform i kind b =
      let b₁ := assertTrait i b ⟨.kind kind, true⟩
      perform (.expand i kind) ((b₁.world.kind kind).superkinds.foldl
        (fun b parent => perform (.declare i parent) b) b₁) := rfl
  rw [unfolded, unfolded]
  have claimed := h.assertTrait hi ⟨.kind kind, true⟩
  dsimp only
  rw [claimed.matched.underlies.superkinds]
  generalize Blueprint.assertTrait i b ⟨.kind kind, true⟩ = c at claimed ⊢
  generalize Blueprint.assertTrait i b' ⟨.kind kind, true⟩ = c' at claimed ⊢
  have lifted := Together.foldl (f := fun b parent => perform (.declare i parent) b)
    (g := fun b parent => perform (.declare i parent) b) (c.world.kind kind).superkinds
    claimed.matched fun d d' together parent _ =>
      inStep (.declare i parent) together.matched (together.lt_size (claimed.lt_size hi))
  have both := claimed.trans lifted
  exact both.trans (inStep (.expand i kind) both.matched (both.lt_size hi))

theorem expandSubkinds (hi : i < b.beings.size) (subkinds : List (Id .kind)) :
    Together b b'
      (subkinds.foldl (fun b sub => if b.couldBe i sub then perform (.expand i sub) b else b) b)
      (subkinds.foldl (fun b sub => if b.couldBe i sub then perform (.expand i sub) b else b)
        b') := by
  refine Together.foldl subkinds h fun c c' together sub _ => ?_
  rw [together.matched.couldBe_eq]
  split_ifs
  · exact inStep (.expand i sub) together.matched (together.lt_size hi)
  · exact .refl together.matched

theorem expandSuperkinds (hi : i < b.beings.size) {member member' : Literal}
    (echoes : member.Echoes (b.Echo b') member') (superkinds : List (Id .kind)) :
    Together b b'
      (superkinds.foldl
        (fun b parent => perform (.expand i parent) (implySuperkind i member parent b)) b)
      (superkinds.foldl
        (fun b parent => perform (.expand i parent) (implySuperkind i member' parent b)) b') := by
  refine Together.foldl superkinds h fun c c' together parent _ => ?_
  have implied := together.matched.implySuperkind (together.literal echoes)
    (together.lt_size hi) parent
  exact implied.trans (inStep (.expand i parent) implied.matched
    (implied.lt_size (together.lt_size hi)))

theorem makeParts (hi : i < b.beings.size) (parts : List (Id .part)) :
    Together b b'
      (if (b.being i).depth < maxPartDepth then
        parts.foldl (fun b part => perform (.part i part) b) b else b)
      (if (b'.being i).depth < maxPartDepth then
        parts.foldl (fun b part => perform (.part i part) b) b' else b') := by
  rw [(h.beings i).depth]
  split_ifs
  · exact Together.foldl parts h fun c c' together part _ =>
      inStep (.part i part) together.matched (together.lt_size hi)
  · exact .refl h

theorem expandMembership (hi : i < b.beings.size) (kind : Id .kind) :
    Together b b' (expandMembership perform i kind b)
      (Blueprint.expandMembership perform i kind b') := by
  obtain ⟨made, echo⟩ := h.isOf hi kind
  obtain ⟨grows', names'⟩ := h.valid'.isOf (h.lt_size hi) kind
  have said : (b'.isOf i kind).2.Says (b'.isOf i kind).1 (.quality i (.kind kind)) :=
    ⟨grows'.grows.lt_size (h.lt_size hi), names'.name?⟩
  unfold Blueprint.expandMembership
  dsimp only
  rw [h.underlies.subkinds, h.underlies.superkinds, h.underlies.implications,
    h.underlies.alternativeSets, h.underlies.ownParts]
  have world := made.grows.world
  have world' := made.grows'.world
  generalize b.isOf i kind = left at made echo world ⊢
  generalize b'.isOf i kind = right at made echo said world' ⊢
  obtain ⟨p, c⟩ := left
  obtain ⟨p', c'⟩ := right
  dsimp only at made echo said world world' ⊢
  rw [← world, ← world']
  have hi := made.lt_size hi
  have member := Literal.Echoes.positive echo
  have chosen := made.matched.chooseSubkind member hi (c.world.kind kind).subkinds
  have to₂ := chosen.trans (inStep.expandSubkinds chosen.matched (chosen.lt_size hi)
    (c.world.kind kind).subkinds)
  have to₃ := to₂.trans (inStep.expandSuperkinds to₂.matched (to₂.lt_size hi) (to₂.literal member)
    (c.world.kind kind).superkinds)
  have to₄ := to₃.trans (to₃.matched.makeAdjectives (to₃.lt_size hi)
    (c.world.kind kind).adjectives (c'.world.kind kind).adjectives)
  have to₅ := to₄.followed (c.world.kind kind).implications fun d d' later implication _ =>
    later.matched.addImplication (later.literal member) (later.lt_size hi) implication
  have to₆ := to₅.followed (c.world.kind kind).alternativeSets fun d d' later set _ =>
    later.matched.addAlternatives (later.literal member) (later.lt_size hi) set
  have valued := to₆.matched.addProperties (to₆.lt_size hi) (to₆.echo echo) (said.later to₆.grows')
  rw [to₆.grows.world, to₆.grows'.world] at valued
  have to₇ := to₆.trans valued
  exact made.trans (to₇.trans
    (inStep.makeParts to₇.matched (to₇.lt_size hi) (c.world.kind kind).parts))

/-- New beings that are alike are declared to be of the same kinds. -/
theorem declareNew (alike : x.Resembles b.world y) (counters counters' : Std.HashMap String Nat)
    (fixed : ∀ id, (b'.push y counters').fixedValue? b'.beings.size id =
      (b.push x counters).fixedValue? b.beings.size id)
    (sub : ∀ trait ∈ y.modifiers, trait ∈ x.modifiers) :
    Together b b' (Blueprint.declare perform b.beings.size x.kinds x.modifiers (b.push x counters))
      (Blueprint.declare perform b'.beings.size y.kinds y.modifiers (b'.push y counters')) := by
  have pushed := h.push alike counters counters' fixed
  have new : b.beings.size < (b.push x counters).beings.size := size_push ▸ Nat.lt_succ_self _
  rw [h.size, alike.kinds]
  exact pushed.trans (inStep.declare pushed.matched new x.kinds sub)

theorem addBeing (kinds : List (Id .kind)) (modifiers : List Trait)
    (container : Option (Nat × Id .part)) (depth : Nat) :
    (addBeing perform kinds modifiers container depth b').1 =
        (addBeing perform kinds modifiers container depth b).1 ∧
      Together b b' (addBeing perform kinds modifiers container depth b).2
        (addBeing perform kinds modifiers container depth b').2 := by
  rw [addBeing_eq, addBeing_eq, h.underlies.declaredKinds_eq]
  refine ⟨h.size, ?_⟩
  dsimp only
  obtain ⟨name, counters, shape⟩ := withBeing_eq (declaredKinds b.world kinds modifiers) modifiers
    container depth b
  obtain ⟨name', counters', shape'⟩ := withBeing_eq (declaredKinds b.world kinds modifiers)
    modifiers container depth b'
  rw [shape, shape']
  refine inStep.declareNew h (x := ⟨name, _, modifiers, none, container, [], [], depth⟩)
    (y := ⟨name', _, modifiers, none, container, [], [], depth⟩) ⟨rfl, rfl, rfl, fun _ _ => rfl⟩
    counters counters' (fun id => ?_) fun _ mem => mem
  rw [fixedValue?_push_of_bare (by simp), fixedValue?_push_of_bare (by simp)]

theorem makePart (i : Nat) (id : Id .part) :
    Together b b' (workBy perform (.part i id) b) (workBy perform (.part i id) b') := by
  rw [workBy, workBy, (h.beings i).parts, (h.beings i).depth, h.underlies.part_eq]
  split_ifs
  · exact .refl h
  · obtain ⟨same, made⟩ := inStep.addBeing h [(b.world.part id).kind] (b.world.part id).modifiers
      (some (i, id)) ((b.being i).depth + 1)
    dsimp only
    rw [same]
    exact made.trans (made.matched.modifyBeing i (fun _ => rfl) (fun _ => rfl) fun alike =>
      ⟨alike.kinds, alike.depth, congrArg (· ++ _) alike.parts, alike.properties⟩)

end InStep

/-- All tasks are done side by side. -/
theorem inStep_work (fuel : Nat) : InStep (work fuel) := by
  induction fuel with
  | zero => exact fun task h _ => .refl h
  | succ fuel ih =>
    intro b b' task h about
    rw [work_succ]
    cases task with
    | declare i kind =>
      have hi : i < b.beings.size := about
      rw [workBy, workBy, h.asserted]
      split_ifs
      · exact .refl h
      · have marked := h.markAsserted hi kind
        exact marked.trans (ih.assertMembership marked.matched hi kind)
    | expand i kind =>
      have hi : i < b.beings.size := about
      rw [workBy, workBy, h.expanded]
      split_ifs
      · exact .refl h
      · have marked := h.markExpanded hi kind
        exact marked.trans (ih.expandMembership marked.matched hi kind)
    | part i id => exact ih.makePart h i id

/-! ## The beings of a request -/

theorem matches_ofWorld {world world' : World} (underlies : world.Underlies world') :
    (ofWorld world).Matches (ofWorld world') := by
  refine
    { valid := (complete_ofWorld world).valid
      valid' := (complete_ofWorld world').valid
      underlies := underlies
      size := rfl
      beings := fun i => ?_
      fixed := fun i id => ?_
      asserted := rfl
      expanded := rfl
      relations := .nil
      relation? := fun verb subject object => ?_
      demands := fun constraint' demands => by simp [Demands, ofWorld, Problem.empty] at demands }
  · rw [being_of_size_le (Nat.zero_le i), being_of_size_le (Nat.zero_le i)]
    exact ⟨rfl, rfl, rfl, fun _ _ => rfl⟩
  · rw [fixedValue?, fixedValue?, being_of_size_le (Nat.zero_le i),
      being_of_size_le (Nat.zero_le i)]
    rfl
  · have none (world : World) : (ofWorld world).relation? verb subject object = none := by
      simp [Blueprint.relation?, ofWorld]
    rw [none, none]
    exact .none

namespace Matches

variable (h : b.Matches b')
include h

/-- Beings are requested side by side. -/
theorem addRequested (request : Request) (count : Nat) :
    Together b b' (addRequested request count b) (Blueprint.addRequested request count b') := by
  induction count generalizing b b' with
  | zero => exact .refl h
  | succ count ih =>
    unfold Blueprint.addRequested
    dsimp only
    rw [h.underlies.enoughFuel_eq]
    obtain ⟨-, made⟩ := InStep.addBeing (inStep_work (enoughFuel b.world)) h [request.kind]
      request.modifiers none 0
    generalize addBeing _ [request.kind] request.modifiers none 0 b = left at made ⊢
    generalize addBeing _ [request.kind] request.modifiers none 0 b' = right at made ⊢
    have marked := made.trans (made.matched.setRequested (left.2.requested ++ [left.1])
      (right.2.requested ++ [right.1]))
    exact marked.trans (ih marked.matched)

/-- The same individual is added on both sides. -/
theorem addPermanent (fuel : Nat) {id : Id .individual}
    (same : b'.world.individual id = b.world.individual id) :
    Together b b' (addPermanent (work fuel) b id) (Blueprint.addPermanent (work fuel) b' id) := by
  unfold Blueprint.addPermanent
  dsimp only
  rw [same]
  refine InStep.declareNew (inStep_work fuel) h
    (x := ⟨_, _, (b.world.individual id).modifiers, some id, none, [], [], 0⟩)
    ⟨rfl, rfl, rfl, fun _ _ => rfl⟩ b.counters b'.counters (fun other => ?_) fun _ mem => mem
  rw [fixedValue?, fixedValue?, being_push, being_push]
  exact congrArg (fun individual : Individual =>
    (individual.properties.find? (·.1 == other)).map Prod.snd) same

/-- The second side has an individual where the first has what was requested. -/
theorem addAsPermanent (fuel : Nat) (kind : Id .kind) (modifiers : List Trait)
    (id : Id .individual)
    (kinds : (b'.world.individual id).kinds = declaredKinds b.world [kind] modifiers)
    (sub : ∀ trait ∈ (b'.world.individual id).modifiers, trait ∈ modifiers)
    (bare : (b'.world.individual id).properties = []) :
    Together b b' (addBeing (work fuel) [kind] modifiers none 0 b).2
      (Blueprint.addPermanent (work fuel) b' id) := by
  obtain ⟨name, counters, shape⟩ := withBeing_eq (declaredKinds b.world [kind] modifiers) modifiers
    none 0 b
  rw [addBeing_eq, shape]
  refine InStep.declareNew (inStep_work fuel) h
    (x := ⟨name, _, modifiers, none, none, [], [], 0⟩)
    (y := ⟨untokenize (b'.world.individual id).name, _, (b'.world.individual id).modifiers, some id,
      none, [], [], 0⟩) ⟨kinds, rfl, rfl, fun _ _ => rfl⟩ counters b'.counters (fun other => ?_) sub
  rw [fixedValue?_push_of_bare (by simpa using bare), fixedValue?_push_of_bare (by simp)]

/-- The second side has what is requested where the first has an individual. -/
theorem addAsRequested (fuel : Nat) (kind : Id .kind) (modifiers : List Trait)
    (id : Id .individual)
    (kinds : (b.world.individual id).kinds = declaredKinds b'.world [kind] modifiers)
    (sub : ∀ trait ∈ modifiers, trait ∈ (b.world.individual id).modifiers)
    (bare : (b.world.individual id).properties = []) :
    Together b b' (Blueprint.addPermanent (work fuel) b id)
      (addBeing (work fuel) [kind] modifiers none 0 b').2 := by
  obtain ⟨name, counters, shape⟩ := withBeing_eq (declaredKinds b'.world [kind] modifiers) modifiers
    none 0 b'
  rw [addBeing_eq, shape]
  refine InStep.declareNew (inStep_work fuel) h
    (x := ⟨untokenize (b.world.individual id).name, _, (b.world.individual id).modifiers, some id,
      none, [], [], 0⟩)
    (y := ⟨name, _, modifiers, none, none, [], [], 0⟩) ⟨kinds.symm, rfl, rfl, fun _ _ => rfl⟩
    b.counters counters (fun other => ?_) sub
  rw [fixedValue?_push_of_bare (by simp), fixedValue?_push_of_bare (by simpa using bare)]

end Matches

end Blueprint

end Worldsmith
