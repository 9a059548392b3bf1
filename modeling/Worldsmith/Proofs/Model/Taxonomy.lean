import Mathlib.Order.WellFounded
import Worldsmith.Proofs.Blueprint.Taxonomy
import Worldsmith.Proofs.Model.Membership
import Worldsmith.Proofs.Session.Turns

/-!
# Which kinds have members

A member of a kind that has kinds below it is of exactly one of those just below. Kinds by
themselves contradict this only where two of them just below one kind meet again further down: what
is of a kind where they meet would have to be of both. So a kind has members if and only if some
kind at or below it, itself without kinds below, is not below two kinds just below one.

## Main definitions

* `World.IsForked` — a kind is at or below two kinds that are just below the same one.

## Main statements

* `World.satisfiable_iff_exists_not_isForked` — which kinds have members, and that no search for
  one says otherwise.
* `World.not_satisfiable_cat` — a kind below two kinds just below one has none, and neither has one
  of two kinds with the same name.
-/

namespace Worldsmith

section Theory

variable {world : World} {kind leaf a b : Id .kind} {members : Id .kind → Bool}

/-- What satisfies the problem of a blueprint makes a model of it. -/
theorem Model.exists_isSolved {b : Blueprint} (inside : b.problem.Scoped)
    (satisfiable : b.problem.Satisfiable) : ∃ solution, IsSolved ⟨b, solution⟩ := by
  obtain ⟨v, met⟩ := satisfiable
  refine ⟨⟨Array.ofFn fun i : Fin b.problem.size => v ⟨i⟩, #[], 0⟩, fun constraint mem => ?_⟩
  rw [← met constraint mem]
  refine Constraint.holds_congr fun p hp => ?_
  have own : p.index < b.problem.size := inside.constraints constraint mem p hp
  simp [Solution.holds, Array.getD_eq_getD_getElem?, own]

namespace World

/-! ## Ways down -/

/-- Down from a kind that something is of there is one without kinds below that it is of, if it is
of one of the kinds just below each. -/
theorem IsHierarchy.exists_leaf (h : world.IsHierarchy) (isMember : members kind = true)
    (down : ∀ kind, members kind = true → (world.kind kind).subkinds ≠ [] →
      ∃ sub ∈ (world.kind kind).subkinds, members sub = true) :
    ∃ leaf, world.Below leaf kind ∧ (world.kind leaf).subkinds = [] ∧ members leaf = true := by
  induction kind using h.wellFounded_justBelow.induction with
  | _ kind ih =>
    by_cases none : (world.kind kind).subkinds = []
    · exact ⟨kind, .refl, none, isMember⟩
    · obtain ⟨sub, mem, isSub⟩ := down kind isMember none
      have edge := (h.mirrored sub kind).mp mem
      obtain ⟨leaf, below, last, isLeaf⟩ := ih sub edge isSub
      exact ⟨leaf, below.tail edge, last, isLeaf⟩

/-- Whether a kind is at or below two kinds that are just below the same one. -/
def IsForked (world : World) (leaf : Id .kind) : Prop :=
  ∃ kind a b, a ≠ b ∧ world.JustBelow a kind ∧ world.JustBelow b kind ∧
    world.Below leaf a ∧ world.Below leaf b

theorem Below.lt_size (h : world.IsHierarchy) (below : world.Below a b)
    (inside : a.index < world.kinds.size) : b.index < world.kinds.size := by
  rcases Relation.ReflTransGen.cases_tail below with rfl | ⟨_, _, edge⟩
  · exact inside
  · exact h.lt_size edge

/-- Whatever is above a kind without kinds below that is not forked makes a profile of all that is
above it. -/
theorem IsHierarchy.isProfile (h : world.IsHierarchy) (inside : kind.index < world.kinds.size)
    (below : world.Below leaf kind) (last : (world.kind leaf).subkinds = [])
    (unforked : ¬ world.IsForked leaf) : world.IsProfile [kind] (world.isA leaf) := by
  have start : leaf.index < world.kinds.size := by
    rcases Relation.ReflTransGen.cases_head below with rfl | ⟨_, edge, _⟩
    · exact inside
    · exact lt_size_of_justBelow edge
  have iff (a b : Id .kind) := isA_iff_below (a := a) (b := b) h
  refine ⟨?_, ?_, ?_, ?_, ?_⟩
  · exact fun other above => Below.lt_size h ((iff _ _).mp above) start
  · simpa [iff] using below
  · intro other above
    exact (couldBe_iff_below h).mpr ⟨kind, List.mem_singleton_self _, leaf, below,
      (iff _ _).mp above⟩
  · intro sub parent above edge
    exact (iff _ _).mpr (((iff _ _).mp above).tail edge)
  · intro parent above some_subkind
    rcases Relation.ReflTransGen.cases_tail ((iff _ _).mp above) with rfl | ⟨sub, above, edge⟩
    · exact absurd last some_subkind
    · refine ⟨sub, ⟨(h.mirrored _ _).mpr edge, (iff _ _).mpr above⟩, ?_⟩
      rintro other ⟨mem, above'⟩
      by_contra apart
      exact unforked ⟨parent, other, sub, apart, (h.mirrored _ _).mp mem, edge,
        (iff _ _).mp above', above⟩

/-! ## Which kinds have members -/

theorem IsNamedTaxonomy.isWellNamed (taxonomy : world.IsNamedTaxonomy) : world.IsWellNamed := by
  constructor
  · intro kind set mem
    rw [(taxonomy.bare kind).alternativeSets] at mem
    cases mem
  · intro q q' has has' same
    cases q with
    | adjective id => simp [World.Has, taxonomy.adjectives] at has
    | kind id =>
      cases q' with
      | adjective id' => simp [World.Has, taxonomy.adjectives] at has'
      | kind id' => rw [taxonomy.eq_of_kindName id id' has has' same]

/-- A kind that has members has one that is of a kind without kinds below, which is not forked. -/
theorem IsNamedTaxonomy.exists_not_isForked (taxonomy : world.IsNamedTaxonomy)
    (satisfiable : (Blueprint.ofRequest world ⟨kind, [], 1⟩).problem.Satisfiable) :
    ∃ leaf, world.Below leaf kind ∧ (world.kind leaf).subkinds = [] ∧ ¬ world.IsForked leaf := by
  have made := Blueprint.complete_ofRequest world ⟨kind, [], 1⟩
  generalize Blueprint.ofRequest world ⟨kind, [], 1⟩ = b at made satisfiable
  obtain ⟨complete, rfl, count, -, each⟩ := made
  obtain ⟨solution, solved⟩ := Model.exists_isSolved complete.valid.built.scoped satisfiable
  obtain ⟨i, one⟩ := List.length_eq_one_iff.mp count
  obtain ⟨lt, kinds, -⟩ := each i (by rw [one]; exact List.mem_singleton_self i)
  have conforms := Model.conforms complete solved taxonomy.hierarchy taxonomy.isWellNamed lt
  have isMember : Model.isOf ⟨b, solution⟩ i kind = true := by
    refine conforms.declared kind ?_ kind .refl
    rw [Model.being, kinds, Blueprint.declaredKinds_singleton]
    exact List.mem_singleton_self kind
  obtain ⟨leaf, below, last, isLeaf⟩ := taxonomy.hierarchy.exists_leaf isMember
    fun kind isOf some => (conforms.existsUnique_subkind kind isOf some).exists
  refine ⟨leaf, below, last, ?_⟩
  rintro ⟨parent, x, y, apart, edge, edge', above, above'⟩
  -- All kinds above the last one hold, so both kinds just below the same one do.
  have up {other : Id .kind} (above : b.world.Below leaf other) :
      Model.isOf ⟨b, solution⟩ i other = true := by
    induction above with
    | refl => exact isLeaf
    | tail _ edge ih => exact conforms.superkinds _ ih _ edge
  have mirrored := taxonomy.hierarchy.mirrored
  have isX := up above
  obtain ⟨sub, -, only⟩ := conforms.existsUnique_subkind parent (conforms.superkinds x isX _ edge)
    (List.ne_nil_of_mem ((mirrored x parent).mpr edge))
  exact apart ((only x ⟨(mirrored x parent).mpr edge, isX⟩).trans
    (only y ⟨(mirrored y parent).mpr edge', up above'⟩).symm)

theorem IsNamedTaxonomy.satisfiable (taxonomy : world.IsNamedTaxonomy)
    (inside : kind.index < world.kinds.size) (below : world.Below leaf kind)
    (last : (world.kind leaf).subkinds = []) (unforked : ¬ world.IsForked leaf) :
    (Blueprint.ofRequest world ⟨kind, [], 1⟩).problem.Satisfiable := by
  have profile := taxonomy.hierarchy.isProfile inside below last unforked
  rw [← Blueprint.declaredKinds_singleton world] at profile
  exact Blueprint.satisfiable_of_isProfile taxonomy rfl profile (by simp)

/-- What is of one of two kinds just below one, and cannot be of the other, is contradictory where
both have the same name. -/
theorem IsHierarchy.not_satisfiable_of_kindName_eq (h : world.IsHierarchy) {parent : Id .kind}
    (edge : world.JustBelow a parent) (edge' : world.JustBelow b parent)
    (same : world.kindName a = world.kindName b) (apart : world.couldBe [a] b = false) :
    ¬ (Blueprint.ofRequest world ⟨a, [], 1⟩).problem.Satisfiable := by
  have made := Blueprint.complete_ofRequest world ⟨a, [], 1⟩
  generalize Blueprint.ofRequest world ⟨a, [], 1⟩ = blueprint at made ⊢
  obtain ⟨complete, rfl, count, -, each⟩ := made
  rintro ⟨v, met⟩
  obtain ⟨i, one⟩ := List.length_eq_one_iff.mp count
  obtain ⟨lt, kinds, -⟩ := each i (by rw [one]; exact List.mem_singleton_self i)
  rw [Blueprint.declaredKinds_singleton] at kinds
  have declared : a ∈ (blueprint.being i).kinds := kinds ▸ List.mem_singleton_self a
  -- It is asserted to be of the one kind.
  obtain ⟨l, isOne, asserted⟩ :=
    (complete.asserted i a (complete.mem_asserted lt declared .refl)).claims
  -- The other kind is denied where one of the two is chosen.
  have could : blueprint.couldBe i parent = true :=
    couldBe_of_below h (couldBe_of_mem h declared) (.single edge)
  obtain ⟨member, entails⟩ := complete.expanded_of_couldBe lt h could
  have among := (h.mirrored b parent).mpr edge'
  obtain ⟨choices, spells, -⟩ := entails.divides (List.ne_nil_of_mem among)
  obtain ⟨l', -, isOther⟩ := spells.exists_literal _ (List.mem_map_of_mem among)
  have denied := isOther.names.denied b rfl (by rw [Blueprint.couldBe, kinds]; exact apart)
  have names : blueprint.qualityName i (.kind a) = blueprint.qualityName i (.kind b) :=
    congrArg (Problem.unaryName · (blueprint.being i).name) same
  have proposition := Problem.eq_of_name? isOne.names.name? (names ▸ isOther.names.name?)
  obtain ⟨x, mem, holds⟩ := Constraint.holds_clause_iff.mp (met _ asserted)
  obtain ⟨y, mem', holds'⟩ := Constraint.holds_clause_iff.mp (met _ denied)
  obtain rfl := List.mem_singleton.mp mem
  obtain rfl := List.mem_singleton.mp mem'
  simp [Valuation.satisfies, Proposition.negative, isOne.positive, proposition] at holds holds'
  exact Bool.false_ne_true (holds'.symm.trans holds)

/-- In a world of kinds alone a kind has members if and only if some kind at or below it, itself
without kinds below, is not forked. To imagine a member is then never refused as a
contradiction. -/
theorem satisfiable_iff_exists_not_isForked (taxonomy : world.IsNamedTaxonomy)
    (inside : kind.index < world.kinds.size) :
    ((Blueprint.ofRequest world ⟨kind, [], 1⟩).problem.Satisfiable ↔
      ∃ leaf, world.Below leaf kind ∧ (world.kind leaf).subkinds = [] ∧ ¬ world.IsForked leaf) ∧
    ((∃ leaf, world.Below leaf kind ∧ (world.kind leaf).subkinds = [] ∧ ¬ world.IsForked leaf) →
      ∀ session : Session, session.world = world →
        ((Turn.imagine ⟨kind, [], 1⟩).take session).1 ≠ .error (.noExample .contradiction)) := by
  refine ⟨⟨taxonomy.exists_not_isForked, ?_⟩, ?_⟩
  · rintro ⟨leaf, below, last, unforked⟩
    exact taxonomy.satisfiable inside below last unforked
  · rintro ⟨leaf, below, last, unforked⟩ session rfl
    exact Turn.imagine_ne_contradiction (Blueprint.complete_ofRequest _ _).1.valid.built
      (taxonomy.satisfiable inside below last unforked)

end World

end Theory

/-! ## A menagerie -/

namespace Menagerie

open World

def animal : Id .kind := ⟨0⟩

def pet : Id .kind := ⟨1⟩

def hunter : Id .kind := ⟨2⟩

def cat : Id .kind := ⟨3⟩

def hamster : Id .kind := ⟨4⟩

/-- A kind with some name and nothing but edges. -/
def kind (noun : String) (superkinds subkinds : List (Id .kind)) : Kind :=
  { Kind.named [.word noun] [.word (noun ++ "s")] with
    superkinds := superkinds
    subkinds := subkinds }

/-- Animals are pets or hunters. Cats are both, hamsters are pets. -/
def world : World := { World.empty with
  kinds := #[kind "animal" [] [pet, hunter], kind "pet" [animal] [cat, hamster],
    kind "hunter" [animal] [cat], kind "cat" [pet, hunter] [], kind "hamster" [pet] []] }

def tom : Id .kind := ⟨1⟩

def kitten : Id .kind := ⟨2⟩

/-- Two kinds just below one have the same name. -/
def namesakes : World := { World.empty with
  kinds := #[kind "animal" [] [tom, kitten], kind "cat" [animal] [], kind "cat" [animal] []] }

theorem isBare_kind (noun : String) (superkinds subkinds : List (Id .kind)) :
    (kind noun superkinds subkinds).IsBare := ⟨rfl, rfl, rfl, rfl, rfl⟩

theorem isBare_default : (default : Kind).IsBare := ⟨rfl, rfl, rfl, rfl, rfl⟩

theorem isTaxonomy_namesakes : namesakes.IsTaxonomy where
  hierarchy := isHierarchy_of_forall_kindIds (by decide) (by decide) (by decide)
  bare := by
    rintro ⟨_ | _ | _ | i⟩ <;> simp [World.kind, namesakes, isBare_kind, isBare_default]
  adjectives := rfl
  verbs := rfl
  individuals := rfl

theorem isNamedTaxonomy_world : world.IsNamedTaxonomy where
  hierarchy := isHierarchy_of_forall_kindIds (by decide) (by decide) (by decide)
  bare := by
    rintro ⟨_ | _ | _ | _ | _ | i⟩ <;> simp [World.kind, world, isBare_kind, isBare_default]
  adjectives := rfl
  verbs := rfl
  individuals := rfl
  eq_of_kindName := by
    have apart : ∀ a ∈ world.kindIds, ∀ b ∈ world.kindIds,
        world.kindName a = world.kindName b → a = b := by decide
    exact fun a b inside inside' =>
      apart a (mem_kindIds_iff.mpr inside) b (mem_kindIds_iff.mpr inside')

/-- Hamsters are not forked. -/
theorem not_isForked_hamster : ¬ world.IsForked hamster := by
  rintro ⟨parent, a, b, apart, edge, edge', above, above'⟩
  have h := isNamedTaxonomy_world.hierarchy
  have known : ∀ parent ∈ world.kindIds, ∀ a ∈ (world.kind parent).subkinds,
      ∀ b ∈ (world.kind parent).subkinds, world.isA hamster a = true → world.isA hamster b = true →
        a = b := by decide
  exact apart (known parent (mem_kindIds_iff.mpr (h.lt_size edge)) a ((h.mirrored _ _).mpr edge) b
    ((h.mirrored _ _).mpr edge') ((isA_iff_below h).mpr above) ((isA_iff_below h).mpr above'))

end Menagerie

open Menagerie

/-- There are pets, because there are hamsters. -/
theorem World.satisfiable_pet : Menagerie.world.IsNamedTaxonomy ∧
    pet.index < Menagerie.world.kinds.size ∧
    (Blueprint.ofRequest Menagerie.world ⟨pet, [], 1⟩).problem.Satisfiable ∧
    ∀ session : Session, session.world = Menagerie.world →
      ((Turn.imagine ⟨pet, [], 1⟩).take session).1 ≠ .error (.noExample .contradiction) := by
  have hamsters : ∃ leaf, Menagerie.world.Below leaf pet ∧
      (Menagerie.world.kind leaf).subkinds = [] ∧ ¬ Menagerie.world.IsForked leaf :=
    ⟨hamster, .single (List.mem_singleton_self pet), rfl, not_isForked_hamster⟩
  have inside : pet.index < Menagerie.world.kinds.size := by decide
  obtain ⟨iff, imagined⟩ := World.satisfiable_iff_exists_not_isForked isNamedTaxonomy_world inside
  exact ⟨isNamedTaxonomy_world, inside, iff.mpr hamsters, imagined hamsters⟩

/-- There is no cat among pets and hunters, which are both animals. Neither is there one where two
kinds of animals are called cats. -/
theorem World.not_satisfiable_cat :
    (Menagerie.world.IsTaxonomy ∧ cat.index < Menagerie.world.kinds.size ∧
      ¬ (Blueprint.ofRequest Menagerie.world ⟨cat, [], 1⟩).problem.Satisfiable) ∧
    namesakes.IsTaxonomy ∧ tom.index < namesakes.kinds.size ∧
      ¬ (Blueprint.ofRequest namesakes ⟨tom, [], 1⟩).problem.Satisfiable := by
  refine ⟨⟨isNamedTaxonomy_world.toIsTaxonomy, by decide, fun satisfiable => ?_⟩,
    isTaxonomy_namesakes, by decide, ?_⟩
  · obtain ⟨leaf, below, -, unforked⟩ := isNamedTaxonomy_world.exists_not_isForked satisfiable
    have lowest {sub : Id .kind} : ¬ Menagerie.world.JustBelow sub cat := fun edge =>
      List.not_mem_nil ((isNamedTaxonomy_world.hierarchy.mirrored sub cat).mpr edge)
    obtain rfl : leaf = cat := by
      rcases Relation.ReflTransGen.cases_tail below with same | ⟨_, _, edge⟩
      · exact same.symm
      · exact absurd edge lowest
    have isPet : Menagerie.world.JustBelow cat pet := List.mem_cons_self
    have isHunter : Menagerie.world.JustBelow cat hunter :=
      List.mem_cons_of_mem _ (List.mem_singleton_self hunter)
    exact unforked ⟨animal, pet, hunter, by decide, List.mem_singleton_self animal,
      List.mem_singleton_self animal, .single isPet, .single isHunter⟩
  · have isTom : namesakes.JustBelow tom animal := List.mem_singleton_self animal
    have isKitten : namesakes.JustBelow kitten animal := List.mem_singleton_self animal
    exact isTaxonomy_namesakes.hierarchy.not_satisfiable_of_kindName_eq isTom isKitten rfl
      (by decide)

end Worldsmith
