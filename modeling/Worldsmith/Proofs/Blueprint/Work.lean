import Worldsmith.Proofs.Lists
import Worldsmith.Proofs.Blueprint.Consequences
import Worldsmith.Proofs.World.Hierarchy

/-!
# The work on beings

Each task is carried out in full. It may call for other tasks, but within a being no membership is
asserted or expanded twice, and a part lies deeper than the being it is a part of, so there is fuel
for all of them.

## Main definitions

* `Blueprint.needed` — the fuel that a task needs at most.
* `Blueprint.Performs` — tasks for which there is enough fuel are carried out in full.

## Main statements

* `Blueprint.Performs.declare`, `Blueprint.Performs.expand` — a membership is asserted or expanded
  in full if the tasks that it calls for are carried out in full.
-/

namespace Worldsmith

namespace Blueprint

variable {b b₁ b' : Blueprint} {i fuel depth : Nat} {kind : Id .kind}
  {kinds : List (Id .kind)} {modifiers : List Trait}

/-! ## Fuel -/

/-- The number of kinds that a being is not in a set of memberships with. -/
def remaining (world : World) (done : Std.HashSet (Nat × Id .kind)) (i : Nat) : Nat :=
  world.kindIds.countP fun kind => !done.contains (i, kind)

/-- Enough fuel for a part of a being that is within so many others. -/
def partFuel (world : World) (depth : Nat) : Nat :=
  (maxPartDepth - depth) * (2 * world.kinds.size + 3)

/-- Enough fuel for a task. -/
def needed (b : Blueprint) : Task → Nat
  | .declare i _ => remaining b.world b.asserted i + remaining b.world b.expanded i +
      partFuel b.world (b.being i).depth + 2
  | .expand i _ => remaining b.world b.expanded i + partFuel b.world (b.being i).depth + 1
  | .part i _ => partFuel b.world (b.being i).depth

/-- Whether a task is about a being that there is, and not about parts that are too far in. -/
def Admits (b : Blueprint) : Task → Prop
  | .declare i _ => i < b.beings.size
  | .expand i _ => i < b.beings.size
  | .part i _ => i < b.beings.size ∧ (b.being i).depth < maxPartDepth

/-- Whether a task has been carried out. -/
def Done (b : Blueprint) : Task → Prop
  | .declare i kind => (i, kind) ∈ b.asserted
  | .expand i kind => (i, kind) ∈ b.expanded
  | .part _ _ => True

/-- Whether tasks that so much fuel is enough for are carried out in full. -/
def Performs (fuel : Nat) (perform : Task → Blueprint → Blueprint) : Prop :=
  ∀ (b : Blueprint) (task : Task), b.Valid → b.Admits task → b.needed task ≤ fuel →
    b.Advances (perform task b) ∧ (perform task b).Done task

theorem remaining_le (world : World) (done : Std.HashSet (Nat × Id .kind)) (i : Nat) :
    remaining world done i ≤ world.kinds.size := by
  refine List.countP_le_length.trans ?_
  simp [World.kindIds, Id.upTo]

theorem remaining_mono (world : World) {done done' : Std.HashSet (Nat × Id .kind)}
    (grows : ∀ m ∈ done, m ∈ done') (i : Nat) :
    remaining world done' i ≤ remaining world done i := by
  refine List.countP_mono_left fun kind _ absent => ?_
  rw [Bool.not_eq_true', ← Bool.not_eq_true, ← Std.HashSet.mem_iff_contains] at absent ⊢
  exact fun mem => absent (grows _ mem)

theorem remaining_insert {world : World} {done : Std.HashSet (Nat × Id .kind)}
    (inside : kind.index < world.kinds.size) (fresh : (i, kind) ∉ done) :
    remaining world (done.insert (i, kind)) i < remaining world done i := by
  have mem : kind ∈ world.kindIds :=
    List.mem_map.mpr ⟨kind.index, List.mem_range.mpr inside, rfl⟩
  refine countP_lt_of_mem mem ?_ ?_ ?_
  · intro other absent
    rw [Bool.not_eq_true', ← Bool.not_eq_true, ← Std.HashSet.mem_iff_contains] at absent ⊢
    exact fun mem => absent (Std.HashSet.mem_insert.mpr (.inr mem))
  · rw [Bool.not_eq_true', ← Bool.not_eq_true, ← Std.HashSet.mem_iff_contains]
    exact fresh
  · simp

theorem needed_mono (lasts : b.Survives b') (task : Task) (admits : b.Admits task) :
    b'.needed task ≤ b.needed task := by
  have asserted := fun i => remaining_mono b.world lasts.asserted i
  have expanded := fun i => remaining_mono b.world lasts.expanded i
  cases task with
  | declare i kind =>
    simp only [needed, lasts.world, lasts.depth_eq admits]
    have := asserted i
    have := expanded i
    omega
  | expand i kind =>
    simp only [needed, lasts.world, lasts.depth_eq admits]
    have := expanded i
    omega
  | part i id => simp only [needed, lasts.world, lasts.depth_eq admits.1, Nat.le_refl]

theorem admits_mono (lasts : b.Survives b') {task : Task} (admits : b.Admits task) :
    b'.Admits task := by
  cases task with
  | declare i kind => exact lasts.lt_size admits
  | expand i kind => exact lasts.lt_size admits
  | part i id => exact ⟨lasts.lt_size admits.1, by rw [lasts.depth_eq admits.1]; exact admits.2⟩

/-! ### What is left when a task has been begun -/

/-- Only kinds of the world are below others, and once one has been marked there is one fewer to
assert. -/
theorem needed_declare_lt {parent : Id .kind} (fresh : (i, kind) ∉ b.asserted)
    (below : b.world.JustBelow kind parent) :
    needed { b with asserted := b.asserted.insert (i, kind) } (.declare i parent) <
      b.needed (.declare i kind) := by
  have := remaining_insert (World.lt_size_of_justBelow below) fresh
  simp only [needed, being]
  omega

theorem needed_expand_lt_declare (b : Blueprint) (i : Nat) (kind : Id .kind) :
    needed { b with asserted := b.asserted.insert (i, kind) } (.expand i kind) <
      b.needed (.declare i kind) := by
  simp only [needed, being]
  omega

theorem needed_expand_lt (fresh : (i, kind) ∉ b.expanded)
    (inside : kind.index < b.world.kinds.size) (other : Id .kind) :
    needed { b with expanded := b.expanded.insert (i, kind) } (.expand i other) <
      b.needed (.expand i kind) := by
  have := remaining_insert inside fresh
  simp only [needed, being]
  omega

theorem needed_part_lt (b : Blueprint) (i : Nat) (part : Id .part) (kind : Id .kind) :
    b.needed (.part i part) < b.needed (.expand i kind) := by
  simp only [needed]
  omega

/-- Whatever a kind has that tasks are for, it is one of the world's, and there is fuel. -/
theorem needed_expand_le_of_mem {α : Type} {x : α} (known : Kind → List α)
    (none : known default = []) (mem : x ∈ known (b.world.kind kind)) (hi : i < b.beings.size)
    (enough : kind.index < b.world.kinds.size → ∀ other, b.needed (.expand i other) ≤ fuel)
    (lasts : b.Survives b') (other : Id .kind) : b'.needed (.expand i other) ≤ fuel :=
  (needed_mono lasts (.expand i other) hi).trans
    (enough (World.lt_size_of_mem known none mem) other)

/-- Fuel that is enough at some time is enough later. -/
theorem Performs.later {perform : Task → Blueprint → Blueprint} (performs : Performs fuel perform)
    (task : Task) (admits : b.Admits task) (enough : b.needed task ≤ fuel) (h : b.Advances b₁) :
    b₁.Advances (perform task b₁) ∧ (perform task b₁).Done task :=
  performs b₁ task h.valid (admits_mono h.grows.survives admits)
    ((needed_mono h.grows.survives task admits).trans enough)

/-! ## Asserting and expanding memberships -/

theorem mem_insert {done : Std.HashSet (Nat × Id .kind)} {j : Nat} {other : Id .kind} :
    (j, other) ∈ done.insert (i, kind) ↔ (j = i ∧ other = kind) ∨ (j, other) ∈ done := by
  rw [Std.HashSet.mem_insert, beq_iff_eq, Prod.mk.injEq, eq_comm, @eq_comm _ kind]

/-- What is true of a new membership is true of all that were not there before. -/
theorem of_mem_insert {done : Std.HashSet (Nat × Id .kind)} {P : Nat → Id .kind → Prop}
    (new : P i kind) (j : Nat) (other : Id .kind) (mem : (j, other) ∈ done.insert (i, kind)) :
    (j, other) ∈ done ∨ P j other := by
  rcases mem_insert.mp mem with ⟨rfl, rfl⟩ | mem
  · exact .inr new
  · exact .inl mem

section Mark

variable {asserted expanded : Std.HashSet (Nat × Id .kind)}

theorem Extends.mark (sub : ∀ m ∈ b.asserted, m ∈ asserted)
    (sub' : ∀ m ∈ b.expanded, m ∈ expanded) :
    b.Extends { b with asserted := asserted, expanded := expanded } :=
  ⟨rfl, .refl _, Nat.le_refl _, fun _ _ => rfl, sub, sub'⟩

theorem Valid.mark (valid : b.Valid) (lt : ∀ j other, (j, other) ∈ asserted → j < b.beings.size)
    (lt' : ∀ j other, (j, other) ∈ expanded → j < b.beings.size) :
    Valid { b with asserted := asserted, expanded := expanded } :=
  ⟨valid.built, lt, lt', valid.excluded, valid.relations, valid.relationIndex⟩

/-- Memberships may be marked as asserted or expanded before they are, as long as they are in the
end. -/
theorem Advances.of_mark (grows : b.Extends { b with asserted := asserted, expanded := expanded })
    (h : Advances { b with asserted := asserted, expanded := expanded } b')
    (finished : ∀ j other, (j, other) ∈ asserted → (j, other) ∈ b.asserted ∨ b'.Asserted j other)
    (finished' : ∀ j other, (j, other) ∈ expanded →
      (j, other) ∈ b.expanded ∨ b'.Expanded j other) : b.Advances b' where
  grows := grows.trans h.grows
  valid := h.valid
  requested := h.requested
  asserted j other mem := (h.asserted j other mem).elim (finished j other) .inr
  expanded j other mem := (h.expanded j other mem).elim (finished' j other) .inr
  declared := h.declared
  served := h.served
  means := h.means

end Mark

section Perform

variable {perform : Task → Blueprint → Blueprint} (performs : Performs fuel perform)
  (valid : b.Valid) (hi : i < b.beings.size)
include performs valid hi

/-- A membership is asserted with all that is above it. -/
theorem Performs.assertMembership
    (up : ∀ parent, b.world.JustBelow kind parent → b.needed (.declare i parent) ≤ fuel)
    (enough : b.needed (.expand i kind) ≤ fuel) :
    b.Advances (assertMembership perform i kind b) ∧
      (Blueprint.assertMembership perform i kind b).Asserted i kind := by
  obtain ⟨claimed, claims⟩ := valid.assertTrait hi ⟨.kind kind, true⟩
  have unfolded : Blueprint.assertMembership perform i kind b =
      let b₁ := assertTrait i b ⟨.kind kind, true⟩
      perform (.expand i kind) ((b₁.world.kind kind).superkinds.foldl
        (fun b parent => perform (.declare i parent) b) b₁) := rfl
  rw [unfolded]
  generalize assertTrait i b ⟨.kind kind, true⟩ = b₁ at claimed claims ⊢
  obtain ⟨lifted, above⟩ := Advances.foldl_done (b₁.world.kind kind).superkinds
    (fun b parent => (i, parent) ∈ b.asserted) claimed.valid
    (fun _ grows mem => grows.asserted _ mem)
    fun b₂ h parent mem => performs.later (.declare i parent) hi
      (up parent (claimed.grows.world ▸ mem)) (claimed.trans h)
  obtain ⟨last, expanded⟩ := performs.later (.expand i kind) hi enough
    (claimed.trans lifted)
  have rest := (lifted.trans last).grows
  refine ⟨claimed.trans (lifted.trans last), ?_, ?_, expanded⟩
  · exact rest.claims (claimed.grows.lt_size hi) claims
  · intro parent mem
    rw [rest.world] at mem
    exact last.grows.asserted _ (above parent mem)

/-- The kinds just below that a being could be of are expanded. -/
theorem Performs.expandSubkinds (subkinds : List (Id .kind))
    (enough : ∀ sub ∈ subkinds, b.needed (.expand i sub) ≤ fuel) :
    let b' := subkinds.foldl
      (fun b sub => if b.couldBe i sub then perform (.expand i sub) b else b) b
    b.Advances b' ∧ ∀ sub ∈ subkinds, b.couldBe i sub = true → (i, sub) ∈ b'.expanded := by
  refine Advances.foldl_done subkinds
    (fun b' sub => b.couldBe i sub = true → (i, sub) ∈ b'.expanded) valid
    (fun _ grows done could => grows.expanded _ (done could)) fun b₁ h sub mem => ?_
  have same : b₁.couldBe i sub = b.couldBe i sub := h.grows.couldBe_eq hi sub
  split_ifs with could
  · obtain ⟨expands, done⟩ := performs.later (.expand i sub) hi (enough sub mem) h
    exact ⟨expands, fun _ => done⟩
  · exact ⟨.refl h.valid, fun could' => absurd (same.trans could') could⟩

/-- All kinds just above are implied and expanded. -/
theorem Performs.expandSuperkinds {member : Literal} (own : b.problem.Has member.proposition)
    (superkinds : List (Id .kind))
    (enough : ∀ parent ∈ superkinds, b.needed (.expand i parent) ≤ fuel) :
    let b' := superkinds.foldl
      (fun b parent => perform (.expand i parent) (implySuperkind i member parent b)) b
    b.Advances b' ∧
      ∀ parent ∈ superkinds, b'.Lifts i member parent ∧ (i, parent) ∈ b'.expanded := by
  refine Advances.foldl_done superkinds
    (fun b parent => b.Lifts i member parent ∧ (i, parent) ∈ b.expanded) valid ?_ ?_
  · intro b₁ b₂ parent grows later ⟨lifts, mem⟩
    exact ⟨later.lifts (grows.lt_size hi) lifts, later.expanded _ mem⟩
  · intro b₁ h parent mem
    have hi₁ := h.grows.lt_size hi
    obtain ⟨implied, lifts⟩ :=
      h.valid.implySuperkind hi₁ (h.grows.problem.has own) parent
    obtain ⟨expands, done⟩ := performs.later (.expand i parent) hi (enough parent mem)
      (h.trans implied)
    exact ⟨implied.trans expands, expands.grows.lifts (implied.grows.lt_size hi₁) lifts, done⟩

/-- Parts are made of a being that is not too far in. -/
theorem Performs.makeParts (parts : List (Id .part))
    (enough : parts ≠ [] → partFuel b.world (b.being i).depth ≤ fuel) :
    b.Advances (if (b.being i).depth < maxPartDepth then
      parts.foldl (fun b part => perform (.part i part) b) b else b) := by
  split_ifs with shallow
  · exact Advances.foldl parts (.refl valid) fun _ h part mem =>
      (performs.later (.part i part) ⟨hi, shallow⟩ (enough (List.ne_nil_of_mem mem)) h).1
  · exact .refl valid

/-- Everything that a membership entails is written down. -/
theorem Performs.expandMembership
    (enough : kind.index < b.world.kinds.size → ∀ other, b.needed (.expand i other) ≤ fuel) :
    b.Advances (expandMembership perform i kind b) ∧
      (Blueprint.expandMembership perform i kind b).Expanded i kind := by
  obtain ⟨made, names⟩ := valid.isOf hi kind
  unfold Blueprint.expandMembership
  dsimp only
  generalize b.isOf i kind = first at made names ⊢
  obtain ⟨p, b₁⟩ := first
  dsimp only at made names ⊢
  obtain ⟨definition, known⟩ : ∃ definition, b.world.kind kind = definition := ⟨_, rfl⟩
  rw [known]
  have later {α : Type} {x : α} (f : Kind → List α) (none : f default = [])
      (mem : x ∈ f definition) {b' : Blueprint} (h : b.Advances b') (other : Id .kind) :
      b'.needed (.expand i other) ≤ fuel :=
    needed_expand_le_of_mem f none (known ▸ mem) hi enough h.grows.survives other
  have own {b' : Blueprint} (h : b₁.Advances b') : b'.problem.Has p.positive.proposition :=
    h.grows.problem.has names.has
  have here {b' : Blueprint} (h : b.Advances b') : i < b'.beings.size := h.grows.lt_size hi
  obtain ⟨chosen, divides⟩ := made.valid.chooseSubkind (here made) (own (.refl made.valid))
    definition.subkinds
  generalize chooseSubkind i p.positive definition.subkinds b₁ = b₂ at chosen divides ⊢
  have to₂ := made.trans chosen
  obtain ⟨lowered, subkinds⟩ := performs.expandSubkinds to₂.valid (here to₂) definition.subkinds
    fun sub mem => later Kind.subkinds rfl mem to₂ sub
  generalize definition.subkinds.foldl _ b₂ = b₃ at lowered subkinds ⊢
  have to₃ := to₂.trans lowered
  obtain ⟨lifted, superkinds⟩ := performs.expandSuperkinds to₃.valid (here to₃)
    (own (chosen.trans lowered)) definition.superkinds
    fun parent mem => later Kind.superkinds rfl mem to₃ parent
  generalize definition.superkinds.foldl _ b₃ = b₄ at lifted superkinds ⊢
  have to₄ := to₃.trans lifted
  have having : b₄.Advances (definition.adjectives.foldl (fun b a => (b.has i a).2) b₄) :=
    Advances.foldl definition.adjectives (.refl to₄.valid) fun _ h adjective _ =>
      (h.valid.has (h.grows.lt_size (here to₄)) adjective).1
  generalize definition.adjectives.foldl _ b₄ = b₅ at having ⊢
  have to₅ := to₄.trans having
  have from₁ := chosen.trans (lowered.trans (lifted.trans having))
  obtain ⟨implied, implications⟩ := to₅.valid.addImplications (here to₅) (own from₁)
    definition.implications
  generalize definition.implications.foldl _ b₅ = b₆ at implied implications ⊢
  have to₆ := to₅.trans implied
  obtain ⟨bounded, alternatives⟩ := to₆.valid.addAlternativeSets (here to₆)
    (own (from₁.trans implied)) definition.alternativeSets
  generalize definition.alternativeSets.foldl _ b₆ = b₇ at bounded alternatives ⊢
  have to₇ := to₆.trans bounded
  have valued := to₇.valid.addProperties (here to₇) (own (from₁.trans (implied.trans bounded)))
    definition.properties
  generalize definition.properties.foldl _ b₇ = b₈ at valued ⊢
  have to₈ := to₇.trans valued
  have parted := performs.makeParts to₈.valid (here to₈) definition.parts fun some => by
    obtain ⟨part, mem⟩ := List.exists_mem_of_ne_nil _ some
    have fuel := later Kind.parts rfl mem to₈ kind
    rw [needed] at fuel
    omega
  generalize (if (b₈.being i).depth < maxPartDepth then _ else b₈) = b₉ at parted ⊢
  have world : b₉.world.kind kind = definition := by rw [(to₈.trans parted).grows.world, known]
  have after₇ := (valued.trans parted).grows
  have after₆ := bounded.grows.trans after₇
  have after₄ := having.grows.trans (implied.grows.trans after₆)
  have after₃ := lifted.grows.trans after₄
  have after₂ := lowered.grows.trans after₃
  refine ⟨to₈.trans parted, p.positive, ?_, ?_, ?_, ?_, ?_, ?_, ?_⟩
  · exact (chosen.grows.trans after₂).denotes (here made) names.positive
  · rw [world]
    exact after₂.divides (here to₂) divides
  · rw [world]
    intro sub mem could
    exact after₃.expanded _ (subkinds sub mem (after₂.couldBe_eq (here to₂) sub ▸ could))
  · rw [world]
    exact fun parent mem => after₄.lifts (here to₄) (superkinds parent mem).1
  · rw [world]
    exact fun parent mem => after₄.expanded _ (superkinds parent mem).2
  · rw [world]
    exact fun _ mem => after₆.implies (here to₆) (implications _ mem)
  · rw [world]
    exact fun _ mem => after₇.bounds (here to₇) (alternatives _ mem)

end Perform

/-! ## The three tasks -/

theorem Performs.declare (performs : Performs fuel (work fuel)) (valid : b.Valid)
    (hi : i < b.beings.size) (enough : b.needed (.declare i kind) ≤ fuel + 1) :
    b.Advances (work (fuel + 1) (.declare i kind) b) ∧
      (work (fuel + 1) (.declare i kind) b).Done (.declare i kind) := by
  rw [work]
  split_ifs with known
  · exact ⟨.refl valid, Std.HashSet.mem_iff_contains.mpr known⟩
  have fresh : (i, kind) ∉ b.asserted := fun mem => known (Std.HashSet.mem_iff_contains.mp mem)
  have grows : b.Extends { b with asserted := b.asserted.insert (i, kind) } :=
    .mark (fun _ mem => Std.HashSet.mem_insert.mpr (.inr mem)) fun _ => id
  have valid₁ : Valid { b with asserted := b.asserted.insert (i, kind) } :=
    valid.mark (fun j other mem => (of_mem_insert (P := fun j _ => j < b.beings.size) hi j other
      mem).elim (valid.asserted_lt j other) id) valid.expanded_lt
  have marked := Std.HashSet.mem_insert_self (m := b.asserted) (k := (i, kind))
  obtain ⟨all, done⟩ := performs.assertMembership valid₁ hi
    (fun _ below => Nat.le_of_lt_succ ((needed_declare_lt fresh below).trans_le enough))
    (Nat.le_of_lt_succ ((needed_expand_lt_declare b i kind).trans_le enough))
  exact ⟨.of_mark grows all (of_mem_insert done) fun _ _ => .inl, all.grows.asserted _ marked⟩

theorem Performs.expand (performs : Performs fuel (work fuel)) (valid : b.Valid)
    (hi : i < b.beings.size) (enough : b.needed (.expand i kind) ≤ fuel + 1) :
    b.Advances (work (fuel + 1) (.expand i kind) b) ∧
      (work (fuel + 1) (.expand i kind) b).Done (.expand i kind) := by
  rw [work]
  split_ifs with known
  · exact ⟨.refl valid, Std.HashSet.mem_iff_contains.mpr known⟩
  have fresh : (i, kind) ∉ b.expanded := fun mem => known (Std.HashSet.mem_iff_contains.mp mem)
  have grows : b.Extends { b with expanded := b.expanded.insert (i, kind) } :=
    .mark (fun _ => id) fun _ mem => Std.HashSet.mem_insert.mpr (.inr mem)
  have valid₁ : Valid { b with expanded := b.expanded.insert (i, kind) } :=
    valid.mark valid.asserted_lt fun j other mem => (of_mem_insert
      (P := fun j _ => j < b.beings.size) hi j other mem).elim (valid.expanded_lt j other) id
  have marked := Std.HashSet.mem_insert_self (m := b.expanded) (k := (i, kind))
  obtain ⟨all, done⟩ := performs.expandMembership valid₁ hi fun inside other =>
    Nat.le_of_lt_succ ((needed_expand_lt fresh inside other).trans_le enough)
  exact ⟨.of_mark grows all (fun _ _ => .inl) (of_mem_insert done), all.grows.expanded _ marked⟩

end Blueprint

end Worldsmith
