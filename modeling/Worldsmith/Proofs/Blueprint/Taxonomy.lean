import Worldsmith.Proofs.Blueprint.Relations
import Worldsmith.Proofs.Lists
import Worldsmith.Proofs.Logic.Meaning
import Worldsmith.Proofs.World.Closure

/-!
# Kinds by themselves

In a world that holds nothing but kinds, all that a being has to do is to be of the right kinds.
Any choice of kinds that agrees with the edges between them makes all constraints true that are
written down about a being.

## Main definitions

* `World.IsTaxonomy` — nothing is declared but kinds.
* `World.IsNamedTaxonomy` — besides, the kinds can be told apart by their names.
* `World.IsProfile` — something could be of certain kinds and of no others.

## Main statements

* `Blueprint.satisfiable_of_isProfile` — there is an example of what has a profile.
-/

namespace Worldsmith

/-- Whether nothing is said of members of a kind. -/
structure Kind.IsBare (kind : Kind) : Prop where
  adjectives : kind.adjectives = []
  alternativeSets : kind.alternativeSets = []
  implications : kind.implications = []
  properties : kind.properties = []
  parts : kind.parts = []

namespace World

/-- Whether kinds and edges between them are all that is declared. -/
structure IsTaxonomy (world : World) : Prop where
  hierarchy : world.IsHierarchy
  bare : ∀ kind, (world.kind kind).IsBare
  adjectives : world.adjectives = #[]
  verbs : world.verbs = #[]
  individuals : world.individuals = #[]

/-- Whether kinds and edges between them are all that is declared, and no two kinds have the same
name. -/
structure IsNamedTaxonomy (world : World) : Prop extends world.IsTaxonomy where
  eq_of_kindName : ∀ a b : Id .kind, a.index < world.kinds.size → b.index < world.kinds.size →
    world.kindName a = world.kindName b → a = b

/-- Whether something declared to be of some kinds could be of certain kinds and of no others: of
exactly one of the kinds just below each of them, and of all kinds just above. -/
structure IsProfile (world : World) (kinds : List (Id .kind)) (members : Id .kind → Bool) :
    Prop where
  lt_size : ∀ kind, members kind = true → kind.index < world.kinds.size
  declared : ∀ kind ∈ kinds, members kind = true
  couldBe : ∀ kind, members kind = true → world.couldBe kinds kind = true
  superkinds : ∀ sub parent, members sub = true → world.JustBelow sub parent →
    members parent = true
  existsUnique_subkind : ∀ kind, members kind = true → (world.kind kind).subkinds ≠ [] →
    ∃! sub, sub ∈ (world.kind kind).subkinds ∧ members sub = true

/-- What the names of memberships of one being say when it is of certain kinds only. -/
def kindTruth (world : World) (name : String) (members : Id .kind → Bool) (text : String) : Bool :=
  world.kindIds.any fun kind => text == Problem.unaryName (world.kindName kind) name && members kind

variable {world : World} {kind : Id .kind} {name : String} {members : Id .kind → Bool}

theorem IsNamedTaxonomy.kindTruth_unaryName (taxonomy : world.IsNamedTaxonomy)
    (inside : kind.index < world.kinds.size) :
    world.kindTruth name members (Problem.unaryName (world.kindName kind) name) = members kind := by
  rw [Bool.eq_iff_iff, kindTruth, List.any_eq_true]
  constructor
  · rintro ⟨other, mem, same⟩
    rw [Bool.and_eq_true, beq_iff_eq] at same
    have names : world.kindName kind = world.kindName other := by
      simpa [Problem.unaryName] using same.1
    obtain rfl := taxonomy.eq_of_kindName kind other inside (mem_kindIds_iff.mp mem) names
    exact same.2
  · exact fun isMember => ⟨kind, mem_kindIds_iff.mpr inside, by simpa using isMember⟩

end World

namespace Blueprint

open World

variable {world : World} {being : Being} {members : Id .kind → Bool} {b b' last : Blueprint}
  {i : Nat} {kind : Id .kind} {l member : Literal} {positive : Bool}

/-- Whether the constraints so far are true if a being is of certain kinds only. -/
structure Tells (world : World) (being : Being) (members : Id .kind → Bool) (i : Nat)
    (b : Blueprint) : Prop where
  valid : b.Valid
  world_eq : b.world = world
  lt_size : i < b.beings.size
  essence : (b.being i).essence = being.essence
  met : b.problem.MetBy (world.kindTruth being.name members)

/-- Whether the constraints are still true later on. -/
structure GoesOn (world : World) (being : Being) (members : Id .kind → Bool) (i : Nat)
    (b b' : Blueprint) : Prop where
  grows : b.Extends b'
  tells : b'.Tells world being members i

namespace GoesOn

theorem trans (h : GoesOn world being members i b b') (g : GoesOn world being members i b' last) :
    GoesOn world being members i b last :=
  ⟨h.grows.trans g.grows, g.tells⟩

theorem foldl {α : Type} {f : Blueprint → α → Blueprint} (xs : List α)
    (tells : b.Tells world being members i)
    (step : ∀ b₁, GoesOn world being members i b b₁ → ∀ x ∈ xs,
      GoesOn world being members i b₁ (f b₁ x)) :
    GoesOn world being members i b (xs.foldl f b) :=
  (foldl_done (R := GoesOn world being members i) xs (fun _ _ => True) trans ⟨.refl b, tells⟩
    (fun h => ⟨.refl _, h.tells⟩)
    (fun _ _ => id) fun b₁ h x mem => ⟨step b₁ h x mem, trivial⟩).1

end GoesOn

/-! ## Single steps -/

namespace Tells

variable (tells : b.Tells world being members i)
include tells

theorem goesOn (h : b.Advances b')
    (met : b'.problem.MetBy (world.kindTruth being.name members)) :
    GoesOn world being members i b b' where
  grows := h.grows
  tells :=
    { valid := h.valid
      world_eq := h.grows.world.trans tells.world_eq
      lt_size := h.grows.lt_size tells.lt_size
      essence := (h.grows.essence i tells.lt_size).trans tells.essence
      met := met }

theorem name_eq : (b.being i).name = being.name := by
  have same := congrArg Being.name tells.essence
  exact same

theorem qualityName_eq (kind : Id .kind) : b.qualityName i (.kind kind) =
    Problem.unaryName (world.kindName kind) being.name := by
  rw [qualityName, tells.name_eq, tells.world_eq]
  rfl

theorem couldBe_eq (kind : Id .kind) : b.couldBe i kind = world.couldBe being.kinds kind := by
  have same := congrArg Being.kinds tells.essence
  rw [Blueprint.couldBe, tells.world_eq, show (b.being i).kinds = being.kinds from same]

theorem clause {literals : List Literal} (own : ∀ l ∈ literals, b.problem.Has l.proposition)
    (mem : l ∈ literals)
    (holds : (b.problem.valuation (world.kindTruth being.name members)).satisfies l = true) :
    GoesOn world being members i b (b.modifyProblem (·.clause literals)) :=
  tells.goesOn (tells.valid.advances_clause own).1 (tells.met.clause mem holds)

section Taxonomy

variable (taxonomy : world.IsNamedTaxonomy)
include taxonomy

/-- A literal that the being is of a kind is true if that kind is a member, and false if not. -/
theorem satisfies_eq (denotes : b.Denotes l i ⟨.kind kind, positive⟩)
    (inside : kind.index < world.kinds.size) :
    (b.problem.valuation (world.kindTruth being.name members)).satisfies l =
      (members kind == positive) := by
  have known := denotes.names.name?
  rw [tells.qualityName_eq] at known
  rw [Valuation.satisfies, Problem.valuation_of_name? known, denotes.positive]
  exact congrArg (· == positive) (taxonomy.kindTruth_unaryName inside)

variable (profile : world.IsProfile being.kinds members)
include profile

theorem isOf (inside : kind.index < world.kinds.size) :
    GoesOn world being members i b (b.isOf i kind).2 ∧
      (b.isOf i kind).2.Names (b.isOf i kind).1 i (.kind kind) := by
  obtain ⟨made, names⟩ := tells.valid.isOf tells.lt_size kind
  refine ⟨tells.goesOn made ?_, names⟩
  have grown : (b.problem.proposition (b.qualityName i (.kind kind))).2.MetBy
      (world.kindTruth being.name members) := tells.met.proposition tells.valid.built.scoped _
  have name := b.problem.name?_proposition (b.qualityName i (.kind kind))
  rw [isOf_eq] at names ⊢
  dsimp only at names ⊢
  split_ifs with possible
  · exact grown
  · have isNot : members kind = false := by
      refine Bool.eq_false_iff.mpr fun isMember => possible ?_
      rw [tells.couldBe_eq, profile.couldBe kind isMember, Bool.true_or]
    refine grown.clause (List.mem_singleton_self _) ?_
    have value : Problem.valuation _ (world.kindTruth being.name members) _ = _ :=
      Problem.valuation_of_name? name
    rw [tells.qualityName_eq, taxonomy.kindTruth_unaryName inside, isNot] at value
    simpa [Valuation.satisfies, Proposition.negative, tells.qualityName_eq] using value

theorem memberships (kinds : List (Id .kind))
    (inside : ∀ kind ∈ kinds, kind.index < world.kinds.size) :
    GoesOn world being members i b (b.memberships i kinds).2 ∧ (b.memberships i kinds).2.Spells
      (b.memberships i kinds).1 i (kinds.map fun kind => ⟨.kind kind, true⟩) := by
  refine ⟨?_, (tells.valid.memberships tells.lt_size kinds).2⟩
  induction kinds generalizing b with
  | nil => exact ⟨.refl b, tells⟩
  | cons kind rest ih =>
    obtain ⟨inside, others⟩ := List.forall_mem_cons.mp inside
    have first := (tells.isOf taxonomy profile inside).1
    exact first.trans (ih first.tells others)

/-- Assert that the being has a trait that it has. -/
theorem assertTrait (inside : kind.index < world.kinds.size) (isSo : members kind = positive) :
    GoesOn world being members i b (Blueprint.assertTrait i b ⟨.kind kind, positive⟩) := by
  obtain ⟨made, names⟩ := tells.isOf taxonomy profile inside
  have denotes : (b.isOf i kind).2.Denotes ⟨(b.isOf i kind).1, positive⟩ i
      ⟨.kind kind, positive⟩ := ⟨names, rfl⟩
  refine made.trans (made.tells.clause (l := ⟨(b.isOf i kind).1, positive⟩) ?_
    (List.mem_singleton_self _) ?_)
  · exact List.forall_mem_singleton.mpr denotes.has
  · rw [made.tells.satisfies_eq taxonomy denotes inside, isSo, beq_self_eq_true]

variable (inside : kind.index < world.kinds.size)
  (denotes : b.Denotes member i ⟨.kind kind, true⟩)
include inside denotes

/-- Either the being is no member, and of no kind just below, or it is of exactly one. -/
theorem chooseSubkind : GoesOn world being members i b
    (Blueprint.chooseSubkind i member (world.kind kind).subkinds b) := by
  unfold Blueprint.chooseSubkind
  split_ifs with none
  · exact ⟨.refl b, tells⟩
  have edge (sub : Id .kind) := (taxonomy.hierarchy.mirrored sub kind).mp
  have insides : ∀ sub ∈ (world.kind kind).subkinds, sub.index < world.kinds.size :=
    fun sub mem => lt_size_of_justBelow (edge sub mem)
  obtain ⟨made, spells⟩ := tells.memberships taxonomy profile _ insides
  generalize b.memberships i (world.kind kind).subkinds = choices at made spells ⊢
  obtain ⟨choices, b₁⟩ := choices
  dsimp only at made spells ⊢
  have denotes₁ := made.grows.denotes tells.lt_size denotes
  have own : ∀ l ∈ member.negate :: choices, b₁.problem.Has l.proposition :=
    List.forall_mem_cons.mpr ⟨denotes₁.has, spells.has⟩
  refine made.trans (made.tells.goesOn (made.tells.valid.advances_constraint
    (made.tells.valid.built.unique own)) (made.tells.met.add ?_))
  suffices one : List.countP _ _ = 1 from Constraint.holds_between_iff.mpr ⟨one.ge, one.le⟩
  rw [countP_eraseDups_eq_one_iff]
  -- What the literals say, now that all of them are there.
  have isMember : (b₁.problem.valuation (world.kindTruth being.name members)).satisfies member =
      members kind := by
    rw [made.tells.satisfies_eq taxonomy denotes₁ inside, beq_true]
  have value (sub : Id .kind) (mem : sub ∈ (world.kind kind).subkinds) {l : Literal}
      (about : b₁.Denotes l i ⟨.kind sub, true⟩) :
      (b₁.problem.valuation (world.kindTruth being.name members)).satisfies l = members sub := by
    rw [made.tells.satisfies_eq taxonomy about (insides sub mem), beq_true]
  have chosen : ∀ l ∈ choices, ∃ sub ∈ (world.kind kind).subkinds,
      b₁.Denotes l i ⟨.kind sub, true⟩ := by
    intro l hl
    obtain ⟨trait, mem, about⟩ := spells.exists_denotes l hl
    obtain ⟨sub, hs, rfl⟩ := List.mem_map.mp mem
    exact ⟨sub, hs, about⟩
  cases known : members kind with
  | false =>
    refine ⟨member.negate, ⟨List.mem_cons_self, by simp [isMember, known]⟩, ?_⟩
    rintro l ⟨mem, holds⟩
    rcases List.mem_cons.mp mem with rfl | mem
    · rfl
    · obtain ⟨sub, hs, about⟩ := chosen l mem
      have above := profile.superkinds sub kind ((value sub hs about).symm.trans holds)
        (edge sub hs)
      exact absurd (known.symm.trans above) (by simp)
  | true =>
    obtain ⟨sub, ⟨hs, isSub⟩, only⟩ := profile.existsUnique_subkind kind known (by simpa using none)
    obtain ⟨l, mem, about⟩ := spells.exists_literal _ (List.mem_map_of_mem hs)
    refine ⟨l, ⟨List.mem_cons_of_mem _ mem, (value sub hs about).trans isSub⟩, ?_⟩
    rintro l' ⟨mem', holds⟩
    rcases List.mem_cons.mp mem' with rfl | mem'
    · simp [isMember, known] at holds
    · obtain ⟨other, ho, about'⟩ := chosen l' mem'
      obtain rfl := only other ⟨ho, (value other ho about').symm.trans holds⟩
      have same := Problem.eq_of_name? about'.names.name? about.names.name?
      have positive := about'.positive.trans about.positive.symm
      cases l
      cases l'
      simp_all

theorem implySuperkind {parent : Id .kind} (edge : world.JustBelow kind parent) :
    GoesOn world being members i b (Blueprint.implySuperkind i member parent b) := by
  have above := taxonomy.hierarchy.lt_size edge
  obtain ⟨made, names⟩ := tells.isOf taxonomy profile above
  unfold Blueprint.implySuperkind
  generalize b.isOf i parent = result at made names ⊢
  obtain ⟨p, b₁⟩ := result
  dsimp only at made names ⊢
  have denotes₁ := made.grows.denotes tells.lt_size denotes
  have own : ∀ l ∈ [member.negate, p.positive], b₁.problem.Has l.proposition := by
    simpa using ⟨denotes₁.has, names.positive.has⟩
  have isMember := made.tells.satisfies_eq taxonomy denotes₁ inside
  have isParent := made.tells.satisfies_eq taxonomy names.positive above
  refine made.trans ?_
  cases known : members kind with
  | false =>
    exact made.tells.clause own List.mem_cons_self (by simp [isMember, known])
  | true =>
    refine made.tells.clause own (List.mem_cons_of_mem _ List.mem_cons_self) ?_
    rw [isParent, profile.superkinds kind parent known edge, beq_self_eq_true]

end Taxonomy

end Tells

/-! ## Tasks -/

/-- Of a kind that nothing is said of, only the edges are written down. -/
theorem expandMembership_of_isBare {perform : Task → Blueprint → Blueprint}
    (bare : (b.world.kind kind).IsBare) : expandMembership perform i kind b =
      let (p, b₁) := b.isOf i kind
      (b.world.kind kind).superkinds.foldl
        (fun b parent => perform (.expand i parent) (implySuperkind i p.positive parent b))
        ((b.world.kind kind).subkinds.foldl
          (fun b sub => if b.couldBe i sub then perform (.expand i sub) b else b)
          (chooseSubkind i p.positive (b.world.kind kind).subkinds b₁)) := by
  unfold expandMembership
  generalize b.world.kind kind = definition at bare
  obtain ⟨singular, plural, superkinds, subkinds⟩ := definition
  obtain ⟨rfl, rfl, rfl, rfl, rfl⟩ := bare
  dsimp only [List.foldl_nil]
  exact ite_self _

/-- Whether a task is to assert a membership that is so, or to expand any. -/
def Task.Fits (world : World) (members : Id .kind → Bool) (i : Nat) : Task → Prop
  | .declare j kind => j = i ∧ kind.index < world.kinds.size ∧ members kind = true
  | .expand j kind => j = i ∧ kind.index < world.kinds.size
  | .part _ _ => False

section Tasks

variable {perform : Task → Blueprint → Blueprint} {modifiers : List Trait} {task : Task}
  (taxonomy : world.IsNamedTaxonomy) (profile : world.IsProfile being.kinds members)

theorem Tells.mark (tells : b.Tells world being members i)
    (asserted expanded : Std.HashSet (Nat × Id .kind))
    (sub : ∀ m ∈ b.asserted, m ∈ asserted) (sub' : ∀ m ∈ b.expanded, m ∈ expanded)
    (lt : ∀ j other, (j, other) ∈ asserted → j < b.beings.size)
    (lt' : ∀ j other, (j, other) ∈ expanded → j < b.beings.size) :
    GoesOn world being members i b { b with asserted := asserted, expanded := expanded } where
  grows := .mark sub sub'
  tells := ⟨tells.valid.mark lt lt', tells.world_eq, tells.lt_size, tells.essence, tells.met⟩

include taxonomy profile

section Perform

variable (performs : ∀ b task, b.Tells world being members i → task.Fits world members i →
  GoesOn world being members i b (perform task b)) (tells : b.Tells world being members i)
include performs tells

theorem Tells.assertMembership (inside : kind.index < world.kinds.size)
    (isMember : members kind = true) :
    GoesOn world being members i b (Blueprint.assertMembership perform i kind b) := by
  have asserted := tells.assertTrait taxonomy profile inside isMember
  have unfolded : Blueprint.assertMembership perform i kind b =
      let b₁ := Blueprint.assertTrait i b ⟨.kind kind, true⟩
      perform (.expand i kind) ((b₁.world.kind kind).superkinds.foldl
        (fun b parent => perform (.declare i parent) b) b₁) := rfl
  rw [unfolded]
  generalize Blueprint.assertTrait i b ⟨.kind kind, true⟩ = b₁ at asserted ⊢
  dsimp only
  rw [asserted.tells.world_eq]
  have lifted := GoesOn.foldl (f := fun b parent => perform (.declare i parent) b)
    (world.kind kind).superkinds asserted.tells fun b₂ h parent edge =>
      performs b₂ (.declare i parent) h.tells
        ⟨rfl, taxonomy.hierarchy.lt_size edge, profile.superkinds kind parent isMember edge⟩
  exact asserted.trans (lifted.trans (performs _ (.expand i kind) lifted.tells ⟨rfl, inside⟩))

theorem Tells.expandMembership (inside : kind.index < world.kinds.size) :
    GoesOn world being members i b (Blueprint.expandMembership perform i kind b) := by
  obtain ⟨made, names⟩ := tells.isOf taxonomy profile inside
  have world_eq := tells.world_eq
  rw [expandMembership_of_isBare (world_eq ▸ taxonomy.bare kind), world_eq]
  generalize b.isOf i kind = result at made names ⊢
  obtain ⟨p, b₁⟩ := result
  dsimp only at made names ⊢
  have chosen := made.tells.chooseSubkind taxonomy profile inside names.positive
  have lowered := GoesOn.foldl
    (f := fun b sub => if b.couldBe i sub then perform (.expand i sub) b else b)
    (world.kind kind).subkinds chosen.tells fun b₂ h sub mem => by
      have edge := (taxonomy.hierarchy.mirrored sub kind).mp mem
      split_ifs
      · exact performs b₂ (.expand i sub) h.tells ⟨rfl, lt_size_of_justBelow edge⟩
      · exact ⟨.refl b₂, h.tells⟩
  have so_far := chosen.trans lowered
  have lifted := GoesOn.foldl
    (f := fun b parent =>
      perform (.expand i parent) (Blueprint.implySuperkind i p.positive parent b))
    (world.kind kind).superkinds so_far.tells fun b₂ h parent edge => by
      have denotes := (so_far.trans h).grows.denotes made.tells.lt_size names.positive
      have implied := h.tells.implySuperkind taxonomy profile inside denotes edge
      exact implied.trans (performs _ (.expand i parent) implied.tells
        ⟨rfl, taxonomy.hierarchy.lt_size edge⟩)
  exact made.trans (so_far.trans lifted)

end Perform

/-- Whatever is done about the being, the constraints are still true. -/
theorem Tells.work (fuel : Nat) (tells : b.Tells world being members i)
    (fits : task.Fits world members i) :
    GoesOn world being members i b (Blueprint.work fuel task b) := by
  induction fuel generalizing b task with
  | zero => exact ⟨.refl b, tells⟩
  | succ fuel ih =>
    cases task with
    | declare j kind =>
      obtain ⟨rfl, inside, isMember⟩ := fits
      rw [Blueprint.work]
      split_ifs with known
      · exact ⟨.refl b, tells⟩
      · have marked := tells.mark (b.asserted.insert (j, kind)) b.expanded
          (fun _ mem => Std.HashSet.mem_insert.mpr (.inr mem)) (fun _ => id)
          (fun j' other mem => (of_mem_insert (P := fun j' _ => j' < b.beings.size) tells.lt_size
            j' other mem).elim (tells.valid.asserted_lt j' other) id) tells.valid.expanded_lt
        exact marked.trans (marked.tells.assertMembership taxonomy profile
          (fun _ _ => ih) inside isMember)
    | expand j kind =>
      obtain ⟨rfl, inside⟩ := fits
      rw [Blueprint.work]
      split_ifs with known
      · exact ⟨.refl b, tells⟩
      · have marked := tells.mark b.asserted (b.expanded.insert (j, kind)) (fun _ => id)
          (fun _ mem => Std.HashSet.mem_insert.mpr (.inr mem)) tells.valid.asserted_lt
          (fun j' other mem => (of_mem_insert (P := fun j' _ => j' < b.beings.size) tells.lt_size
            j' other mem).elim (tells.valid.expanded_lt j' other) id)
        exact marked.trans (marked.tells.expandMembership taxonomy profile (fun _ _ => ih) inside)
    | part j id => exact fits.elim

/-! ## The request -/

theorem Tells.declare (fuel : Nat) (tells : b.Tells world being members i)
    (modified : ∀ trait ∈ modifiers, ∃ kind : Id .kind, kind.index < world.kinds.size ∧
      trait.quality = .kind kind ∧ members kind = trait.positive) :
    GoesOn world being members i b
      (Blueprint.declare (Blueprint.work fuel) i being.kinds modifiers b) := by
  have classified := GoesOn.foldl (f := fun b kind => Blueprint.work fuel (.declare i kind) b)
    being.kinds tells fun b₁ h kind mem => by
      have isMember := profile.declared kind mem
      exact h.tells.work taxonomy profile fuel ⟨rfl, profile.lt_size kind isMember, isMember⟩
  refine classified.trans (GoesOn.foldl (f := Blueprint.assertTrait i) modifiers classified.tells
    fun b₁ h trait mem => ?_)
  obtain ⟨kind, inside, about, isSo⟩ := modified trait mem
  obtain ⟨quality, positive⟩ := trait
  obtain rfl : quality = .kind kind := about
  exact h.tells.assertTrait taxonomy profile inside isSo

/-- There is an example of what has a profile. -/
theorem satisfiable_declare_push (fuel : Nat) (valid : b.Valid) (same : b.world = world)
    (none : b.problem = .empty)
    (modified : ∀ trait ∈ modifiers, ∃ kind : Id .kind, kind.index < world.kinds.size ∧
      trait.quality = .kind kind ∧ members kind = trait.positive) :
    (Blueprint.declare (Blueprint.work fuel) b.beings.size being.kinds modifiers
      { b with beings := b.beings.push being }).problem.Satisfiable := by
  have tells : Tells world being members b.beings.size
      { b with beings := b.beings.push being } := by
    refine ⟨valid.push being, same, ?_, ?_, ?_⟩
    · rw [Array.size_push]
      exact Nat.lt_succ_self _
    · rw [being_push_self]
    · dsimp only
      rw [none]
      exact Problem.metBy_empty _
  exact (tells.declare taxonomy profile fuel modified).tells.met.satisfiable

end Tasks

/-- There is an example of one being with a profile that agrees with what is requested of it. -/
theorem satisfiable_of_isProfile (taxonomy : world.IsNamedTaxonomy) {request : Request}
    (single : request.count = 1)
    (profile : world.IsProfile (declaredKinds world [request.kind] request.modifiers) members)
    (modified : ∀ trait ∈ request.modifiers, ∃ kind : Id .kind, kind.index < world.kinds.size ∧
      trait.quality = .kind kind ∧ members kind = trait.positive) :
    (ofRequest world request).problem.Satisfiable := by
  have valid := (complete_ofWorld world).valid
  have made : (addBeing (work (enoughFuel (ofWorld world).world)) [request.kind]
      request.modifiers none 0 (ofWorld world)).2.problem.Satisfiable := by
    unfold addBeing
    rw [show (ofWorld world).world = world from rfl]
    cases declared : declaredKinds world [request.kind] request.modifiers with
    | nil =>
      rw [declared] at profile
      let being : Being := ⟨"thing" ++ (0 + 1).repr, [], request.modifiers, none, none, [], [], 0⟩
      have profile : world.IsProfile being.kinds members := profile
      exact satisfiable_declare_push taxonomy profile _ valid rfl rfl modified
    | cons kind rest =>
      rw [declared] at profile
      let being : Being := ⟨((ofWorld world).freshName kind).1, kind :: rest, request.modifiers,
        none, none, [], [], 0⟩
      have profile : world.IsProfile being.kinds members := profile
      exact satisfiable_declare_push (b := ((ofWorld world).freshName kind).2) taxonomy profile _
        (valid.advances_freshName kind).valid rfl rfl modified
  have added := (performs_work (enoughFuel (ofWorld world).world)).addBeing valid [request.kind]
    request.modifiers none 0 (le_enoughFuel world)
  have noIndividuals : world.individualIds = [] := by
    simp [individualIds, Id.upTo, taxonomy.individuals]
  unfold ofRequest
  rw [noIndividuals, List.foldl_nil, single]
  change (addRequested request (0 + 1) (ofWorld world)).addRelations.problem.Satisfiable
  rw [addRequested]
  generalize addBeing (work (enoughFuel (ofWorld world).world)) [request.kind] request.modifiers
    none 0 (ofWorld world) = result at added made ⊢
  obtain ⟨i, b⟩ := result
  have noVerbs : b.world.verbIds = [] := by
    rw [added.1.grows.world]
    simp [ofWorld, verbIds, Id.upTo, taxonomy.verbs]
  simpa [addRequested, addRelations, noVerbs] using made

end Blueprint

end Worldsmith
