import Worldsmith.Proofs.Blueprint.Parts

/-!
# Tasks with enough fuel

Two ways of doing tasks agree, with so much fuel, if they come to the same where a task needs no
more than that, and build the being that it is about. If they do, their steps agree with one more.
So there is no telling what tasks would do with none, and the work on beings never gets there.

## Main definitions

* `Blueprint.Suits` — a task is about what a being could be, or could have.
* `Blueprint.Agree` — two ways of doing tasks come to the same, and build.

## Main statements

* `Blueprint.Agree.workBy` — their steps agree with more fuel.
* `Blueprint.agree_work` — the work on beings never comes to what is beyond its fuel.
-/

namespace Worldsmith

namespace Blueprint

variable {b b₁ b' : Blueprint} {i fuel : ℕ} {kind : Id .kind} {part : Id .part} {being : Being}
  {perform perform' : Task → Blueprint → Blueprint}

/-! ## Two ways of doing tasks -/

/-- The being that a task is about. -/
def Task.about : Task → ℕ
  | .declare i _ | .expand i _ | .part i _ => i

/-- Whether a task is about what a being could be, or could have. -/
def Suits (b : Blueprint) : Task → Prop
  | .declare i kind | .expand i kind => b.couldBe i kind = true
  | .part i part => b.CouldHave i part

/-- Whether a part that was to be made is there. -/
def Made (b : Blueprint) : Task → Prop
  | .declare _ _ | .expand _ _ => True
  | .part i part => b.HasPart i part

/-- Whether two ways of doing tasks come to the same where there is enough fuel, and do no more and
no less than to build the being that the task is about. -/
def Agree (fuel : ℕ) (perform perform' : Task → Blueprint → Blueprint) : Prop :=
  ∀ (b : Blueprint) (task : Task), b.world.IsHierarchy → b.Admits task → b.Suits task →
    b.needed task ≤ fuel → perform task b = perform' task b ∧
      b.Builds task.about (perform task b) ∧ (perform task b).Made task

theorem lt_size_of_admits {task : Task} (admits : b.Admits task) :
    task.about < b.beings.size := by
  cases task with
  | declare | expand => exact admits
  | part => exact admits.1

theorem suits_mono (lasts : b.Survives b') {task : Task} (admits : b.Admits task)
    (suits : b.Suits task) : b'.Suits task := by
  have hi := lt_size_of_admits admits
  cases task with
  | declare i kind | expand i kind => exact (lasts.couldBe_eq hi kind).trans suits
  | part i part => exact suits.mono lasts hi

/-- What two ways agree on at some time they agree on later. -/
theorem Agree.later (agree : Agree fuel perform perform') (hierarchy : b.world.IsHierarchy)
    (task : Task) (admits : b.Admits task) (suits : b.Suits task) (enough : b.needed task ≤ fuel)
    (lasts : b.Survives b₁) : perform task b₁ = perform' task b₁ ∧
      b₁.Builds task.about (perform task b₁) ∧ (perform task b₁).Made task :=
  agree b₁ task (lasts.world ▸ hierarchy) (admits_mono lasts admits) (suits_mono lasts admits suits)
    ((needed_mono lasts task admits).trans enough)

/-- One thing after another that builds a being. -/
theorem Builds.foldl {α : Type} {f g : Blueprint → α → Blueprint} (xs : List α)
    (done : Blueprint → α → Prop)
    (lasts : ∀ {b₁ b₂ : Blueprint} {x : α}, b.Builds i b₁ → b₁.Builds i b₂ → done b₁ x → done b₂ x)
    (step : ∀ b₁, b.Builds i b₁ → ∀ x ∈ xs,
      f b₁ x = g b₁ x ∧ b₁.Builds i (f b₁ x) ∧ done (f b₁ x) x) :
    xs.foldl f b = xs.foldl g b ∧ b.Builds i (xs.foldl f b) ∧ ∀ x ∈ xs, done (xs.foldl f b) x := by
  refine ⟨foldl_congr (b.Builds i) (.refl b i) fun b₁ h x mem => ?_, ?_⟩
  · obtain ⟨same, builds, -⟩ := step b₁ h x mem
    exact ⟨same, h.trans builds⟩
  · exact foldl_done (R := fun b b' => b.Builds i b') xs done Builds.trans (.refl b i)
      (fun _ => .refl _ i) lasts fun b₁ h x mem => (step b₁ h x mem).2

section Agree

variable (agree : Agree fuel perform perform') (hierarchy : b.world.IsHierarchy)
  (hi : i < b.beings.size)
include agree hierarchy hi

theorem Agree.assertMembership (could : b.couldBe i kind = true)
    (up : ∀ parent, b.world.JustBelow kind parent → b.needed (.declare i parent) ≤ fuel)
    (enough : b.needed (.expand i kind) ≤ fuel) :
    assertMembership perform i kind b = assertMembership perform' i kind b ∧
      b.Builds i (assertMembership perform i kind b) := by
  obtain ⟨before, still, shape⟩ := assertMembership_eq i kind b
  have first := still.builds i
  obtain ⟨same, lifted, -⟩ := Builds.foldl (b.world.kind kind).superkinds (fun _ _ => True)
    (fun _ _ => id) fun b₁ h parent edge =>
      agree.later hierarchy (.declare i parent) hi
        (World.couldBe_of_below hierarchy could (.single edge)) (up parent edge)
        (first.trans h).lasts
  obtain ⟨same', last, -⟩ := agree.later hierarchy (.expand i kind) hi could enough
    (first.trans lifted).lasts
  rw [shape, shape, ← same, ← same']
  exact ⟨rfl, first.trans (lifted.trans last)⟩

/-- Of the kinds just below those that a being could be of are expanded. -/
theorem Agree.expandSubkinds (subkinds : List (Id .kind))
    (enough : ∀ sub ∈ subkinds, b.needed (.expand i sub) ≤ fuel) :
    let below := subkinds.foldl
      (fun b sub => if b.couldBe i sub then perform (.expand i sub) b else b) b
    below = subkinds.foldl
      (fun b sub => if b.couldBe i sub then perform' (.expand i sub) b else b) b ∧
      b.Builds i below := by
  obtain ⟨same, builds, -⟩ := Builds.foldl subkinds (fun _ _ => True) (fun _ _ => id)
    (f := fun b sub => if b.couldBe i sub then perform (.expand i sub) b else b)
    (g := fun b sub => if b.couldBe i sub then perform' (.expand i sub) b else b)
    fun b₁ h sub mem => by
      split_ifs with could
      · exact agree.later hierarchy (.expand i sub) hi
          ((h.lasts.couldBe_eq hi sub).symm.trans could) (enough sub mem) h.lasts
      · exact ⟨rfl, .refl _ i, trivial⟩
  exact ⟨same, builds⟩

/-- All kinds just above are expanded, each after something else that leaves the beings alone. -/
theorem Agree.expandSuperkinds {imply : Id .kind → Blueprint → Blueprint}
    (implies : ∀ parent b, Still b (imply parent b)) (superkinds : List (Id .kind))
    (could : ∀ parent ∈ superkinds, b.couldBe i parent = true)
    (enough : ∀ parent ∈ superkinds, b.needed (.expand i parent) ≤ fuel) :
    let above := superkinds.foldl (fun b parent => perform (.expand i parent) (imply parent b)) b
    above = superkinds.foldl (fun b parent => perform' (.expand i parent) (imply parent b)) b ∧
      b.Builds i above := by
  obtain ⟨same, builds, -⟩ := Builds.foldl superkinds (fun _ _ => True) (fun _ _ => id)
    (f := fun b parent => perform (.expand i parent) (imply parent b))
    (g := fun b parent => perform' (.expand i parent) (imply parent b))
    fun b₁ h parent mem => by
      have implied := (implies parent b₁).builds i
      obtain ⟨same, builds, made⟩ := agree.later hierarchy (.expand i parent) hi
        (could parent mem) (enough parent mem) (h.trans implied).lasts
      exact ⟨same, implied.trans builds, made⟩
  exact ⟨same, builds⟩

/-- Parts are made of a being that is not too far in. -/
theorem Agree.makeParts (parts : List (Id .part)) (could : ∀ part ∈ parts, b.CouldHave i part)
    (enough : ∀ part ∈ parts, b.needed (.part i part) ≤ fuel) :
    let made := if (b.being i).depth < maxPartDepth then
      parts.foldl (fun b part => perform (.part i part) b) b else b
    (made = if (b.being i).depth < maxPartDepth then
      parts.foldl (fun b part => perform' (.part i part) b) b else b) ∧ b.Builds i made ∧
      ((b.being i).depth < maxPartDepth → ∀ part ∈ parts, made.HasPart i part) := by
  dsimp only
  split_ifs with shallow
  · obtain ⟨same, builds, made⟩ := Builds.foldl parts (fun b part => b.HasPart i part)
      (fun _ h ⟨child, made⟩ => ⟨child, h.kept i made⟩) fun b₁ h part mem =>
        agree.later hierarchy (.part i part) ⟨hi, shallow⟩ (could part mem) (enough part mem)
          h.lasts
    exact ⟨same, builds, fun _ => made⟩
  · exact ⟨rfl, .refl b i, fun shallow' => absurd shallow' shallow⟩

theorem Agree.expandMembership (could : b.couldBe i kind = true)
    (enough : kind.index < b.world.kinds.size → ∀ other, b.needed (.expand i other) ≤ fuel) :
    expandMembership perform i kind b = expandMembership perform' i kind b ∧
      b.Builds i (expandMembership perform i kind b) ∧
      (expandMembership perform i kind b).Fitted i kind := by
  obtain ⟨before, imply, after, still, implies, writes, shape⟩ := expandMembership_eq i kind b
  rw [shape, shape]
  obtain ⟨definition, known⟩ : ∃ definition, b.world.kind kind = definition := ⟨_, rfl⟩
  rw [known]
  have later {α : Type} {x : α} (f : Kind → List α) (none : f default = [])
      (mem : x ∈ f definition) {b' : Blueprint} (h : b.Builds i b') (other : Id .kind) :
      b'.needed (.expand i other) ≤ fuel :=
    needed_expand_le_of_mem f none (known ▸ mem) hi enough h.lasts other
  have here {b' : Blueprint} (h : b.Builds i b') : i < b'.beings.size := h.lasts.lt_size hi
  have same_world {b' : Blueprint} (h : b.Builds i b') : b'.world.IsHierarchy :=
    h.lasts.world ▸ hierarchy
  have to₁ := still.builds i
  obtain ⟨same₂, lowered⟩ := agree.expandSubkinds (same_world to₁) (here to₁) definition.subkinds
    fun sub mem => later Kind.subkinds rfl mem to₁ sub
  dsimp only at same₂ lowered ⊢
  rw [← same₂]
  generalize definition.subkinds.foldl _ before = b₂ at lowered ⊢
  have to₂ := to₁.trans lowered
  have couldBe (parent : Id .kind) (edge : parent ∈ definition.superkinds) :
      b₂.couldBe i parent = true := by
    rw [← known] at edge
    exact (to₂.lasts.couldBe_eq hi parent).trans
      (World.couldBe_of_below hierarchy could (.single edge))
  obtain ⟨same₃, lifted⟩ := agree.expandSuperkinds (same_world to₂) (here to₂) implies
    definition.superkinds couldBe fun parent mem => later Kind.superkinds rfl mem to₂ parent
  rw [← same₃]
  generalize definition.superkinds.foldl _ b₂ = b₃ at lifted ⊢
  have to₄ := to₂.trans (lifted.trans ((writes b₃).builds i))
  generalize after b₃ = b₄ at to₄ ⊢
  obtain ⟨same₅, parted, made⟩ := agree.makeParts (same_world to₄) (here to₄) definition.parts
    (fun part mem => CouldHave.mono ⟨kind, could, known ▸ mem⟩ to₄.lasts hi)
    fun part mem => (needed_part_lt b₄ i part kind).le.trans (later Kind.parts rfl mem to₄ kind)
  rw [← same₅]
  generalize (if (b₄.being i).depth < maxPartDepth then _ else b₄) = b₅ at parted made ⊢
  have to₅ := to₄.trans parted
  refine ⟨rfl, to₅, here to₅, (to₅.lasts.couldBe_eq hi kind).trans could, ?_⟩
  intro shallow part mem
  rw [to₅.lasts.world, known] at mem
  exact made ((parted.lasts.depth_eq (here to₄)).symm.trans_lt shallow) part mem

end Agree

/-! ## New beings -/

/-- A new being is declared to be of its kinds. -/
theorem Agree.declareNew (agree : Agree fuel perform perform') (hierarchy : b.world.IsHierarchy)
    (being : Being) (counters : Std.HashMap String ℕ) (modifiers : List Trait)
    (enough : 2 * b.world.kinds.size + partFuel b.world being.depth + 2 ≤ fuel) :
    let declared := declare perform b.beings.size being.kinds modifiers (b.push being counters)
    declared = declare perform' b.beings.size being.kinds modifiers (b.push being counters) ∧
      (b.push being counters).Builds b.beings.size declared := by
  obtain ⟨after, still, shape⟩ := declare_eq b.beings.size modifiers
  have new : b.beings.size < (b.push being counters).beings.size :=
    size_push ▸ Nat.lt_succ_self _
  have could (kind : Id .kind) (mem : kind ∈ being.kinds) :
      (b.push being counters).couldBe b.beings.size kind = true := by
    rw [couldBe, being_push]
    exact World.couldBe_of_mem hierarchy mem
  obtain ⟨same, builds, -⟩ := Builds.foldl (b := b.push being counters) being.kinds
    (fun _ _ => True) (fun _ _ => id) fun b₁ h kind mem =>
      agree.later (b := b.push being counters) hierarchy (.declare b.beings.size kind) new
        (could kind mem) ((needed_push_le b being counters kind).trans enough) h.lasts
  dsimp only
  rw [shape, shape, ← same]
  exact ⟨rfl, builds.trans ((still _).builds _)⟩

theorem withBeing_eq (declared : List (Id .kind)) (modifiers : List Trait)
    (container : Option (ℕ × Id .part)) (depth : ℕ) (b : Blueprint) : ∃ name counters,
      b.withBeing declared modifiers container depth =
        b.push ⟨name, declared, modifiers, none, container, [], [], depth⟩ counters := by
  unfold withBeing
  cases declared <;> exact ⟨_, _, rfl⟩

/-! ## All tasks -/

section Agree

variable (agree : Agree fuel perform perform') (hierarchy : b.world.IsHierarchy)
include agree hierarchy

theorem Agree.declare (hi : i < b.beings.size) (could : b.couldBe i kind = true)
    (enough : b.needed (.declare i kind) ≤ fuel + 1) :
    workBy perform (.declare i kind) b = workBy perform' (.declare i kind) b ∧
      b.Builds i (workBy perform (.declare i kind) b) := by
  rw [workBy, workBy]
  split_ifs with known
  · exact ⟨rfl, .refl b i⟩
  have fresh : (i, kind) ∉ b.asserted := fun mem => known (Std.HashSet.mem_iff_contains.mp mem)
  obtain ⟨same, builds⟩ := agree.assertMembership
    (b := { b with asserted := b.asserted.insert (i, kind) }) hierarchy hi could
    (fun _ below => Nat.le_of_lt_succ ((needed_declare_lt fresh below).trans_le enough))
    (Nat.le_of_lt_succ ((needed_expand_lt_declare b i kind).trans_le enough))
  exact ⟨same, builds.of_mark_asserted⟩

theorem Agree.expand (hi : i < b.beings.size) (could : b.couldBe i kind = true)
    (enough : b.needed (.expand i kind) ≤ fuel + 1) :
    workBy perform (.expand i kind) b = workBy perform' (.expand i kind) b ∧
      b.Builds i (workBy perform (.expand i kind) b) := by
  rw [workBy, workBy]
  split_ifs with known
  · exact ⟨rfl, .refl b i⟩
  have fresh : (i, kind) ∉ b.expanded := fun mem => known (Std.HashSet.mem_iff_contains.mp mem)
  obtain ⟨same, builds, fitted⟩ := agree.expandMembership
    (b := { b with expanded := b.expanded.insert (i, kind) }) hierarchy hi could
    fun inside other => Nat.le_of_lt_succ ((needed_expand_lt fresh inside other).trans_le enough)
  exact ⟨same, builds.of_mark_expanded fitted⟩

theorem Agree.makePart (hi : i < b.beings.size) (shallow : (b.being i).depth < maxPartDepth)
    (could : b.CouldHave i part) (enough : b.needed (.part i part) ≤ fuel + 1) :
    workBy perform (.part i part) b = workBy perform' (.part i part) b ∧
      b.Builds i (workBy perform (.part i part) b) ∧
      (workBy perform (.part i part) b).HasPart i part := by
  rw [workBy, workBy]
  split_ifs with known
  · obtain ⟨⟨_, child⟩, mem, same⟩ := List.any_eq_true.mp known
    exact ⟨rfl, .refl b i, child, beq_iff_eq.mp same ▸ mem⟩
  have fresh : part ∉ (b.being i).parts.map Prod.fst := by
    simpa [List.any_eq_true, List.mem_map] using known
  rw [needed, partFuel_of_lt shallow] at enough
  dsimp only
  rw [addBeing_eq, addBeing_eq]
  obtain ⟨name, counters, shape⟩ := withBeing_eq
    (declaredKinds b.world [(b.world.part part).kind] (b.world.part part).modifiers)
    (b.world.part part).modifiers (some (i, part)) ((b.being i).depth + 1) b
  rw [shape]
  obtain ⟨same, builds⟩ := agree.declareNew hierarchy
    ⟨name, declaredKinds b.world [(b.world.part part).kind] (b.world.part part).modifiers,
      (b.world.part part).modifiers, none, some (i, part), [], [], (b.being i).depth + 1⟩
    counters (b.world.part part).modifiers (by dsimp only; omega)
  dsimp only at same builds ⊢
  rw [← same]
  have brings := builds.brings rfl
  exact ⟨rfl, brings.addPart (brings.fitsInto hi shallow could rfl rfl) fresh⟩

end Agree

theorem Agree.workBy (agree : Agree fuel perform perform') :
    Agree (fuel + 1) (workBy perform) (workBy perform') := by
  intro b task hierarchy admits suits enough
  cases task with
  | declare i kind =>
    obtain ⟨same, builds⟩ := agree.declare hierarchy admits suits enough
    exact ⟨same, builds, trivial⟩
  | expand i kind =>
    obtain ⟨same, builds⟩ := agree.expand hierarchy admits suits enough
    exact ⟨same, builds, trivial⟩
  | part i part => exact agree.makePart hierarchy admits.1 admits.2 suits enough

/-- No task can do without fuel. -/
theorem agree_zero (perform perform' : Task → Blueprint → Blueprint) :
    Agree 0 perform perform' := by
  intro b task _ admits _ enough
  cases task with
  | declare | expand => simp [needed] at enough
  | part =>
    rw [needed, partFuel_of_lt admits.2] at enough
    omega

/-- Tasks never come to what is beyond the fuel that they need. -/
theorem agree_work (fuel : ℕ) (beyond : Task → Blueprint → Blueprint) :
    Agree fuel (work fuel) (Blueprint.workBy^[fuel] beyond) := by
  induction fuel with
  | zero => exact agree_zero _ _
  | succ fuel ih =>
    rw [work_succ, Function.iterate_succ_apply']
    exact ih.workBy

end Blueprint

end Worldsmith
