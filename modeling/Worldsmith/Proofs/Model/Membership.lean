import Worldsmith.Model.Basic
import Worldsmith.Proofs.Lists
import Worldsmith.Proofs.Blueprint.Relations
import Worldsmith.Proofs.Search.Soundness

/-!
# Memberships in models

A solution of the problem that a request is made into says of every being what it is and has. All
that the world says of kinds is then true of the members of these kinds: the propositions that a
model reads are the ones that the constraints are about, and constraints have been written down for
every kind that a being could be.

## Main definitions

* `World.IsWellNamed` — qualities can be told apart by their names.
* `Model.Conforms` — what the world says of kinds is true of a being.

## Main statements

* `Model.conforms_of_solve` — all beings of a model that has been found conform to the world.
-/

namespace Worldsmith

/-! ## Names -/

namespace World

/-- Whether a quality is one of the world's own. -/
def Has (world : World) : Quality → Prop
  | .kind id => id.index < world.kinds.size
  | .adjective id => id.index < world.adjectives.size

/-- No two kinds or adjectives have the same name, and alternatives are among them. -/
structure IsWellNamed (world : World) : Prop where
  has : ∀ kind, ∀ set ∈ (world.kind kind).alternativeSets, ∀ trait ∈ set.alternatives,
    world.Has trait.quality
  eq_of_qualityName : ∀ q q', world.Has q → world.Has q' →
    world.qualityName q = world.qualityName q' → q = q'

end World

namespace Blueprint

variable {b : Blueprint} {i : Nat} {l l' : Literal} {trait trait' : Trait}
  {quality quality' : Quality}

theorem eq_of_qualityName (named : b.world.IsWellNamed) (has : b.world.Has quality)
    (has' : b.world.Has quality') (same : b.qualityName i quality = b.qualityName i quality') :
    quality = quality' := by
  refine named.eq_of_qualityName _ _ has has' ?_
  simpa [qualityName, Problem.unaryName] using same

/-- Literals about a being are the same if and only if they say the same of it. -/
theorem Denotes.eq_iff (denotes : b.Denotes l i trait) (denotes' : b.Denotes l' i trait')
    (named : b.world.IsWellNamed) (has : b.world.Has trait.quality)
    (has' : b.world.Has trait'.quality) : l = l' ↔ trait = trait' := by
  constructor
  · rintro rfl
    have name := denotes.names.name?.symm.trans denotes'.names.name?
    have quality := eq_of_qualityName named has has' (Option.some.inj name)
    have positive := denotes.positive.symm.trans denotes'.positive
    cases trait
    cases trait'
    simp_all
  · rintro rfl
    have proposition := Problem.eq_of_name? denotes.names.name? denotes'.names.name?
    have positive := denotes.positive.trans denotes'.positive.symm
    cases l
    cases l'
    simp_all

end Blueprint

/-! ## What a solution says -/

namespace Model

variable {m : Model} {i : Nat} {p : Proposition} {l member : Literal} {quality : Quality}
  {trait : Trait} {kind : Id .kind}

/-- Whether the solution meets all constraints of the blueprint. -/
def IsSolved (m : Model) : Prop := m.blueprint.problem.SatisfiedBy m.solution.holds

/-- What the world says of kinds is true of a being. -/
structure Conforms (m : Model) (i : Nat) : Prop where
  declared : ∀ kind ∈ (m.being i).kinds, ∀ above, m.world.Below kind above →
    m.isOf i above = true
  modifiers : ∀ trait ∈ (m.being i).modifiers, m.hasTrait i trait = true
  superkinds : ∀ kind, m.isOf i kind = true → ∀ parent ∈ (m.world.kind kind).superkinds,
    m.isOf i parent = true
  existsUnique_subkind : ∀ kind, m.isOf i kind = true → (m.world.kind kind).subkinds ≠ [] →
    ∃! sub, sub ∈ (m.world.kind kind).subkinds ∧ m.isOf i sub = true
  subkinds : ∀ kind, m.isOf i kind = false → ∀ sub ∈ (m.world.kind kind).subkinds,
    m.isOf i sub = false
  implications : ∀ kind, m.isOf i kind = true →
    ∀ implication ∈ (m.world.kind kind).implications,
      (∀ condition ∈ implication.conditions, m.hasTrait i condition = true) →
        m.hasTrait i implication.consequent = true
  alternatives : ∀ kind, m.isOf i kind = true → ∀ set ∈ (m.world.kind kind).alternativeSets,
    set.low ≤ set.alternatives.eraseDups.countP (m.hasTrait i) ∧
      set.alternatives.eraseDups.countP (m.hasTrait i) ≤ set.high

theorem satisfies_negate (l : Literal) :
    m.solution.satisfies l.negate = !m.solution.satisfies l :=
  Valuation.satisfies_negate m.solution.holds l

namespace IsSolved

variable (solved : m.IsSolved)
include solved

theorem holds {constraint : Constraint} (demands : m.blueprint.Demands constraint) :
    constraint.holds m.solution.satisfies = true :=
  solved constraint demands

theorem satisfies_of_clause {literals : List Literal}
    (demands : m.blueprint.Demands (.clause literals)) :
    ∃ l ∈ literals, m.solution.satisfies l = true :=
  Constraint.holds_clause_iff.mp (solved.holds demands)

/-- A model reads the proposition that the constraints are about. What a being cannot be is
denied, so nothing depends on whether it could be. -/
theorem hasQuality_eq (names : m.blueprint.Names p i quality) :
    m.hasQuality i quality = m.solution.holds p := by
  have found := Problem.find?_eq_some_iff.mpr names.name?
  cases quality with
  | adjective adjective =>
    have known : m.blueprint.adjectiveProposition? i adjective = some p := found
    rw [hasQuality, has, known, Option.any_some]
  | kind kind =>
    have known : m.blueprint.kindProposition? i kind = some p := found
    rw [hasQuality, isOf, known, Option.any_some]
    cases could : m.blueprint.couldBe i kind with
    | true => rw [Bool.true_and]
    | false =>
      obtain ⟨l, mem, holds⟩ := solved.satisfies_of_clause (names.denied kind rfl could)
      obtain rfl := List.mem_singleton.mp mem
      simpa [Solution.satisfies, Proposition.negative] using holds

theorem satisfies_eq (denotes : m.blueprint.Denotes l i trait) :
    m.solution.satisfies l = m.hasTrait i trait := by
  rw [Solution.satisfies, hasTrait, solved.hasQuality_eq denotes.names, denotes.positive]

theorem satisfies_kind (denotes : m.blueprint.Denotes l i ⟨.kind kind, true⟩) :
    m.solution.satisfies l = m.isOf i kind := by
  rw [solved.satisfies_eq denotes, hasTrait, hasQuality]
  cases m.isOf i kind <;> rfl

theorem hasTrait_of_claims (claims : m.blueprint.Claims i trait) :
    m.hasTrait i trait = true := by
  obtain ⟨l, denotes, demands⟩ := claims
  obtain ⟨l', mem, holds⟩ := solved.satisfies_of_clause demands
  obtain rfl := List.mem_singleton.mp mem
  rwa [solved.satisfies_eq denotes] at holds

variable (denotes : m.blueprint.Denotes member i ⟨.kind kind, true⟩)
  (isMember : m.isOf i kind = true)
include denotes isMember

theorem satisfies_negate_eq_false : m.solution.satisfies member.negate = false := by
  rw [satisfies_negate, solved.satisfies_kind denotes, isMember, Bool.not_true]

/-- The clause that a member has to meet is met by something else than its not being one. -/
theorem satisfies_of_member {literals : List Literal}
    (demands : m.blueprint.Demands (.clause (member.negate :: literals).eraseDups)) :
    ∃ l ∈ literals, m.solution.satisfies l = true := by
  obtain ⟨l, mem, holds⟩ := solved.satisfies_of_clause demands
  rcases List.mem_cons.mp (List.mem_eraseDups.mp mem) with rfl | mem
  · simp [solved.satisfies_negate_eq_false denotes isMember] at holds
  · exact ⟨l, mem, holds⟩

theorem isOf_of_lifts {parent : Id .kind} (lifts : m.blueprint.Lifts i member parent) :
    m.isOf i parent = true := by
  obtain ⟨l, above, demands⟩ := lifts
  obtain ⟨l', mem, holds⟩ := solved.satisfies_of_member denotes isMember demands
  obtain rfl := List.mem_singleton.mp mem
  rwa [solved.satisfies_kind above] at holds

theorem hasTrait_of_implies {implication : Implication}
    (implies : m.blueprint.Implies i member implication)
    (conditions : ∀ condition ∈ implication.conditions, m.hasTrait i condition = true) :
    m.hasTrait i implication.consequent = true := by
  obtain ⟨literals, consequent, spells, consequentDenotes, demands⟩ := implies
  obtain ⟨l, mem, holds⟩ := solved.satisfies_of_member denotes isMember demands
  rcases List.mem_append.mp mem with mem | mem
  · obtain ⟨literal, ofCondition, rfl⟩ := List.mem_map.mp mem
    obtain ⟨condition, among, about⟩ := spells.exists_denotes literal ofCondition
    rw [satisfies_negate, solved.satisfies_eq about, conditions condition among] at holds
    simp at holds
  · obtain rfl := List.mem_singleton.mp mem
    rwa [solved.satisfies_eq consequentDenotes] at holds

/-- A member is of some kind just below. -/
theorem exists_of_divides {subkinds : List (Id .kind)}
    (divides : m.blueprint.Divides i member subkinds) (some_subkind : subkinds ≠ []) :
    ∃ sub ∈ subkinds, m.isOf i sub = true := by
  obtain ⟨choices, spells, demands⟩ := divides some_subkind
  obtain ⟨low, -⟩ := Constraint.holds_between_iff.mp (solved.holds demands)
  obtain ⟨l, mem, holds⟩ := List.countP_pos_iff.mp low
  rcases List.mem_cons.mp (List.mem_eraseDups.mp mem) with rfl | mem
  · simp [solved.satisfies_negate_eq_false denotes isMember] at holds
  obtain ⟨_, among, about⟩ := spells.exists_denotes l mem
  obtain ⟨sub, hs, rfl⟩ := List.mem_map.mp among
  exact ⟨sub, hs, (solved.satisfies_kind about).symm.trans holds⟩

/-- The one literal that is true of a member is about one of the kinds just below. -/
theorem existsUnique_of_divides (named : m.world.IsWellNamed) {subkinds : List (Id .kind)}
    (own : ∀ sub ∈ subkinds, m.world.Has (.kind sub))
    (divides : m.blueprint.Divides i member subkinds) (some_subkind : subkinds ≠ []) :
    ∃! sub, sub ∈ subkinds ∧ m.isOf i sub = true := by
  obtain ⟨sub, hs, isSub⟩ := solved.exists_of_divides denotes isMember divides some_subkind
  obtain ⟨choices, spells, demands⟩ := divides some_subkind
  have met := Constraint.holds_between_iff.mp (solved.holds demands)
  obtain ⟨l, -, only⟩ := countP_eraseDups_eq_one_iff.mp (Nat.le_antisymm met.2 met.1)
  have same {other : Id .kind} (ho : other ∈ subkinds) (isOther : m.isOf i other = true) :
      m.blueprint.Denotes l i ⟨.kind other, true⟩ := by
    obtain ⟨l', mem, about⟩ := spells.exists_literal _ (List.mem_map_of_mem ho)
    obtain rfl := only l' ⟨List.mem_cons_of_mem _ mem, (solved.satisfies_kind about).trans isOther⟩
    exact about
  refine ⟨sub, ⟨hs, isSub⟩, ?_⟩
  rintro other ⟨ho, isOther⟩
  have trait := ((same ho isOther).eq_iff (same hs isSub) named (own other ho) (own sub hs)).mp rfl
  exact Quality.kind.inj (congrArg Trait.quality trait)

/-- Different alternatives are about different propositions, so counting either is the same. -/
theorem countP_of_bounds (named : m.world.IsWellNamed) {set : AlternativeSet}
    (own : ∀ trait ∈ set.alternatives, m.world.Has trait.quality)
    (bounds : m.blueprint.Bounds i member set) :
    set.low ≤ set.alternatives.eraseDups.countP (m.hasTrait i) ∧
      set.alternatives.eraseDups.countP (m.hasTrait i) ≤ set.high := by
  obtain ⟨literals, spells, demands⟩ := bounds
  have met := Constraint.holds_guarded_iff.mp (solved.holds demands)
    ((solved.satisfies_kind denotes).trans isMember)
  have each : List.Forall₂ (fun l trait => m.world.Has trait.quality ∧
      m.blueprint.Denotes l i trait) literals set.alternatives :=
    ((List.forall₂_and_left _ _).mpr ⟨own, spells.flip⟩).flip
  have once := forall₂_eraseDups (fun h h' => h.2.eq_iff h'.2 named h.1 h'.1) each
  have same := countP_of_forall₂ once fun h => solved.satisfies_eq h.2
  rwa [same] at met

end IsSolved

/-- A being is of all kinds that it was declared to be of, and of those above. -/
theorem isOf_of_below {above : Id .kind} (complete : m.blueprint.Complete) (solved : m.IsSolved)
    (hi : i < m.size) (declared : kind ∈ (m.being i).kinds) (below : m.world.Below kind above) :
    m.isOf i above = true := by
  have asserted := complete.asserted i above (complete.mem_asserted hi declared below)
  have claimed := solved.hasTrait_of_claims asserted.claims
  simpa [hasTrait, hasQuality] using claimed

/-- In a model of a complete blueprint every being is what the world says. -/
theorem conforms (complete : m.blueprint.Complete) (solved : m.IsSolved)
    (hierarchy : m.world.IsHierarchy) (named : m.world.IsWellNamed) (hi : i < m.size) :
    m.Conforms i := by
  have expanded (kind : Id .kind) (isOf : m.isOf i kind = true) : m.blueprint.Expanded i kind := by
    refine complete.expanded_of_couldBe hi hierarchy ?_
    exact (Bool.and_eq_true_iff.mp isOf).1
  have superkinds (kind : Id .kind) (isOf : m.isOf i kind = true) :
      ∀ parent ∈ (m.world.kind kind).superkinds, m.isOf i parent = true := by
    intro parent mem
    obtain ⟨member, entails⟩ := expanded kind isOf
    exact solved.isOf_of_lifts entails.denotes isOf (entails.lifts parent mem)
  refine ⟨?_, ?_, superkinds, ?_, ?_, ?_, ?_⟩
  · intro kind mem above below
    exact isOf_of_below complete solved hi mem below
  · exact fun trait mem => solved.hasTrait_of_claims ((complete.declared i hi).modifiers trait mem)
  · intro kind isOf some_subkind
    obtain ⟨member, entails⟩ := expanded kind isOf
    refine solved.existsUnique_of_divides entails.denotes isOf named ?_ entails.divides some_subkind
    intro sub mem
    exact World.lt_size_of_justBelow ((hierarchy.mirrored sub kind).mp mem)
  · intro kind isNot sub mem
    by_contra isSub
    have isOf := superkinds sub (Bool.not_eq_false _ ▸ isSub) kind
      ((hierarchy.mirrored sub kind).mp mem)
    exact Bool.false_ne_true (isNot.symm.trans isOf)
  · intro kind isOf implication mem conditions
    obtain ⟨member, entails⟩ := expanded kind isOf
    exact solved.hasTrait_of_implies entails.denotes isOf (entails.implications implication mem)
      conditions
  · intro kind isOf set mem
    obtain ⟨member, entails⟩ := expanded kind isOf
    exact solved.countP_of_bounds entails.denotes isOf named (named.has kind set mem)
      (entails.alternatives set mem)

section Solve

variable {σ : Type} {chooser : Chooser σ} {budget : Nat} {source source' : σ} {solution : Solution}
  {world : World} {request : Request}

/-- Whatever is found for a request has as many requested beings as were requested, each declared
as was requested, and all its beings conform to the world. -/
theorem conforms_of_solve (hierarchy : world.IsHierarchy) (named : world.IsWellNamed)
    (solved : (Blueprint.ofRequest world request).problem.solve chooser budget source =
      (.ok solution, source')) :
    let m : Model := ⟨.ofRequest world request, solution⟩
    m.blueprint.requested.length = request.count ∧ m.blueprint.requested.Nodup ∧
      (∀ i ∈ m.blueprint.requested, i < m.size ∧
        (m.being i).kinds = Blueprint.declaredKinds world [request.kind] request.modifiers ∧
        (m.being i).modifiers = request.modifiers) ∧
      ∀ i < m.size, m.Conforms i := by
  have made := Blueprint.complete_ofRequest world request
  generalize Blueprint.ofRequest world request = b at made solved ⊢
  obtain ⟨complete, rfl, length, nodup, each⟩ := made
  have met := (complete.valid.built.scoped.satisfiedBy_of_solve solved).1
  exact ⟨length, nodup, each, fun i hi => conforms complete met hierarchy named hi⟩

end Solve

end Model

/-! ## A small zoo -/

namespace Zoo

open Blueprint

def animal : Id .kind := ⟨0⟩

def cat : Id .kind := ⟨1⟩

/-- Cats are animals. -/
def world : World := { World.empty with
  kinds := #[
    ⟨[.word "animal"], [.word "animals"], [], [cat], [], [], [], [], [], none, none⟩,
    ⟨[.word "cat"], [.word "cats"], [animal], [], [], [], [], [], [], none, none⟩] }

theorem justBelow_iff {sub parent : Id .kind} :
    world.JustBelow sub parent ↔ sub = cat ∧ parent = animal := by
  have none : (default : Kind).superkinds = [] := rfl
  obtain ⟨_ | _ | i⟩ := sub <;> simp [World.JustBelow, World.kind, world, cat, none]

theorem isHierarchy_world : world.IsHierarchy := by
  constructor
  · intro sub parent
    have none : (default : Kind).subkinds = [] := rfl
    rw [justBelow_iff]
    obtain ⟨_ | _ | i⟩ := parent <;> simp [World.kind, world, animal, none]
  · intro kind cycle
    have up {a b : Id .kind} (way : Relation.TransGen world.JustBelow a b) : b.index < a.index := by
      induction way with
      | single edge =>
        obtain ⟨rfl, rfl⟩ := justBelow_iff.mp edge
        decide
      | tail _ edge ih =>
        obtain ⟨rfl, rfl⟩ := justBelow_iff.mp edge
        exact Nat.zero_lt_of_lt ih
    exact Nat.lt_irrefl _ (up cycle)

theorem isWellNamed_world : world.IsWellNamed := by
  constructor
  · intro kind set mem
    have none : (default : Kind).alternativeSets = [] := rfl
    obtain ⟨_ | _ | i⟩ := kind <;> simp [World.kind, world, none] at mem
  · have known (q : Quality) (has : world.Has q) : q = .kind animal ∨ q = .kind cat := by
      cases q with
      | kind id => obtain ⟨_ | _ | i⟩ := id <;> simp_all [World.Has, world, animal, cat]
      | adjective id => simp [World.Has, world, World.empty] at has
    intro q q' has has' same
    rcases known q has with rfl | rfl <;> rcases known q' has' with rfl | rfl
    · rfl
    · exact absurd same (by decide)
    · exact absurd same (by decide)
    · rfl

/-! One animal is asked for. That it is an animal and that it is a cat become propositions. -/

def request : Request := ⟨animal, [], 1⟩

def isAnimal : Proposition := ⟨0⟩

def isCat : Proposition := ⟨1⟩

/-- It is an animal. -/
def asserted : Problem := (Problem.empty.proposition "animal(animal1)").2.assert isAnimal.positive

/-- An animal is a cat. -/
def divided : Problem :=
  (asserted.proposition "cat(animal1)").2.unique [isAnimal.negative, isCat.positive]

/-- A cat is an animal. -/
def problem : Problem := divided.implies isCat.positive isAnimal.positive

theorem names_empty : Problem.empty.names.names = #[] := rfl

theorem names_asserted : asserted.names.names = #["animal(animal1)"] :=
  (Problem.proposition_of_notMem "animal(animal1)" names_empty (by simp)).2

theorem names_divided : divided.names.names = #["animal(animal1)", "cat(animal1)"] :=
  (Problem.proposition_of_notMem "cat(animal1)" names_asserted (by simp)).2

theorem proposition_empty : Problem.empty.proposition "animal(animal1)" =
    (isAnimal, (Problem.empty.proposition "animal(animal1)").2) :=
  Prod.ext (Problem.proposition_of_notMem "animal(animal1)" names_empty (by simp)).1 rfl

theorem proposition_asserted : asserted.proposition "cat(animal1)" =
    (isCat, (asserted.proposition "cat(animal1)").2) :=
  Prod.ext (Problem.proposition_of_notMem "cat(animal1)" names_asserted (by simp)).1 rfl

theorem sized_asserted : asserted.priors.size = asserted.size := by
  have sized : Problem.empty.priors.size = Problem.empty.size := rfl
  exact Problem.size_priors_proposition sized "animal(animal1)"

theorem again_asserted : asserted.proposition "animal(animal1)" = (isAnimal, asserted) := by
  refine Problem.proposition_of_name? sized_asserted ?_
  rw [Problem.name?, names_asserted]
  rfl

theorem again_divided : divided.proposition "animal(animal1)" = (isAnimal, divided) ∧
    divided.proposition "cat(animal1)" = (isCat, divided) := by
  have sized : divided.priors.size = divided.size :=
    Problem.size_priors_proposition sized_asserted "cat(animal1)"
  constructor
  · refine Problem.proposition_of_name? sized ?_
    rw [Problem.name?, names_divided]
    rfl
  · refine Problem.proposition_of_name? sized ?_
    rw [Problem.name?, names_divided]
    rfl

/-! The blueprint goes from one of these problems to the next. -/

/-- The only being, with the problem so far and the memberships that have been treated. -/
def blueprint (problem : Problem) (asserted expanded : Std.HashSet (Nat × Id .kind)) : Blueprint :=
  ⟨world, problem, #[⟨"animal1", [animal], [], none, none, [], [], 0⟩], [], asserted, expanded, ∅,
    #[], ∅, (∅ : Std.HashMap String Nat).insert "animal" 1⟩

section Steps

variable {done expanded : Std.HashSet (Nat × Id .kind)} {before after : Problem} {p : Proposition}

theorem isOf_animal (made : before.proposition "animal(animal1)" = (p, after)) :
    (blueprint before done expanded).isOf 0 animal = (p, blueprint after done expanded) :=
  isOf_of_couldBe rfl made

theorem isOf_cat (made : before.proposition "cat(animal1)" = (p, after)) :
    (blueprint before done expanded).isOf 0 cat = (p, blueprint after done expanded) :=
  isOf_of_couldBe rfl made

theorem kind_animal : (blueprint before done expanded).world.kind animal =
    ⟨[.word "animal"], [.word "animals"], [], [cat], [], [], [], [], [], none, none⟩ := rfl

theorem kind_cat : (blueprint before done expanded).world.kind cat =
    ⟨[.word "cat"], [.word "cats"], [animal], [], [], [], [], [], [], none, none⟩ := rfl

theorem expand_cat (fuel : Nat) (fresh : (0, cat) ∉ expanded) (known : (0, animal) ∈ expanded) :
    work (fuel + 2) (.expand 0 cat) (blueprint divided done expanded) =
      blueprint problem done (expanded.insert (0, cat)) := by
  rw [work, if_neg (by simpa [blueprint] using fresh)]
  change expandMembership _ 0 cat (blueprint divided done (expanded.insert (0, cat))) = _
  unfold expandMembership
  rw [isOf_cat again_divided.2, kind_cat]
  have chosen : chooseSubkind 0 isCat.positive []
      (blueprint divided done (expanded.insert (0, cat))) =
        blueprint divided done (expanded.insert (0, cat)) := rfl
  have lifted : implySuperkind 0 isCat.positive animal
      (blueprint divided done (expanded.insert (0, cat))) =
        blueprint problem done (expanded.insert (0, cat)) := by
    rw [implySuperkind, isOf_animal again_divided.1]
    rfl
  have again : work (fuel + 1) (.expand 0 animal)
      (blueprint problem done (expanded.insert (0, cat))) =
        blueprint problem done (expanded.insert (0, cat)) := by
    rw [work, if_pos (by simp [blueprint, known])]
  simp only [List.foldl_cons, List.foldl_nil, chosen, lifted, again, ite_self]

theorem expand_animal (fuel : Nat) (fresh : (0, animal) ∉ expanded) (fresh' : (0, cat) ∉ expanded) :
    work (fuel + 3) (.expand 0 animal) (blueprint asserted done expanded) =
      blueprint problem done ((expanded.insert (0, animal)).insert (0, cat)) := by
  rw [work, if_neg (by simpa [blueprint] using fresh)]
  change expandMembership _ 0 animal
    (blueprint asserted done (expanded.insert (0, animal))) = _
  unfold expandMembership
  rw [isOf_animal again_asserted, kind_animal]
  have chosen : chooseSubkind 0 isAnimal.positive [cat]
      (blueprint asserted done (expanded.insert (0, animal))) =
        blueprint divided done (expanded.insert (0, animal)) := by
    simp only [chooseSubkind, memberships, isOf_cat proposition_asserted]
    rfl
  have could : (blueprint divided done (expanded.insert (0, animal))).couldBe 0 cat = true := rfl
  have lowered : work (fuel + 2) (.expand 0 cat)
      (blueprint divided done (expanded.insert (0, animal))) =
        blueprint problem done ((expanded.insert (0, animal)).insert (0, cat)) := by
    refine expand_cat fuel (fun mem => ?_) Std.HashSet.mem_insert_self
    exact fresh' ((mem_insert.mp mem).resolve_left (by decide))
  simp only [List.foldl_cons, List.foldl_nil, chosen, could, if_true, lowered, ite_self]

end Steps

/-- The memberships that are asserted. -/
def done : Std.HashSet (Nat × Id .kind) := (∅ : Std.HashSet (Nat × Id .kind)).insert (0, animal)

theorem declare_animal (fuel : Nat) :
    work (fuel + 4) (.declare 0 animal) (blueprint .empty ∅ ∅) =
      blueprint problem done (done.insert (0, cat)) := by
  rw [work, if_neg (by simp [blueprint])]
  change assertMembership _ 0 animal (blueprint .empty done ∅) = _
  unfold assertMembership
  rw [isOf_animal proposition_empty]
  exact expand_animal fuel Std.HashSet.not_mem_empty Std.HashSet.not_mem_empty

theorem freshName_animal : (ofWorld world).freshName animal = ("animal1",
    { ofWorld world with counters := (∅ : Std.HashMap String Nat).insert "animal" 1 }) := by
  have base : ((world.kindName animal).map fun c => if c = ' ' then '_' else c) = "animal" := by
    rw [show world.kindName animal = "animal" by decide, ← String.toList_inj, String.toList_map]
    decide
  simp only [freshName, ofWorld, base, Std.HashMap.getD_empty]
  rfl

theorem addBeing_animal : addBeing (work 24) [animal] [] none 0 (ofWorld world) =
    (0, blueprint problem done (done.insert (0, cat))) := by
  have specific : declaredKinds (ofWorld world).world [animal] [] = [animal] := by decide
  unfold addBeing
  rw [specific]
  simp only [freshName_animal, declare, List.foldl_cons, List.foldl_nil]
  exact congrArg (Prod.mk 0) (declare_animal 20)

/-- The request is made into the last of the problems. -/
theorem problem_ofRequest : (ofRequest world request).problem = problem := by
  have added : addRequested request 1 (ofWorld world) =
      { blueprint problem done (done.insert (0, cat)) with requested := [0] } := by
    have being : addBeing (work (enoughFuel (ofWorld world).world)) [request.kind]
      request.modifiers none 0 (ofWorld world) = _ := addBeing_animal
    rw [addRequested, being]
    rfl
  change (addRequested request 1 (ofWorld world)).addRelations.problem = problem
  rw [added]
  rfl

theorem size_problem : problem.size = 2 := congrArg Array.size names_divided

theorem constraints_problem : problem.constraints.toList = [.clause [isAnimal.positive],
    .between 1 1 [isAnimal.negative, isCat.positive],
    .clause [isCat.negative, isAnimal.positive]] := rfl

/-- There is nothing to decide. -/
theorem settle_problem : problem.settle 20 =
    ⟨.quiet, ⟨#[some true, some true], #[isAnimal, isCat]⟩, 12⟩ := by
  rw [Problem.settle, Problem.occurrences, size_problem, constraints_problem]
  cbv

theorem solve_problem : problem.solve .steady 20 () = (.ok ⟨#[true, true], #[], 8⟩, ()) := by
  have found : problem.search .steady 20 () =
      (.found ⟨#[some true, some true], #[isAnimal, isCat]⟩ 12, ()) := by
    rw [Problem.search, settle_problem]
    dsimp only [Chooser.steady]
    rw [Problem.propositions, size_problem, descend]
    cbv
  rw [Problem.solve, found]
  cbv

end Zoo

/-- The animal that is asked for is an animal and therefore a cat. -/
theorem Model.conforms_zoo : Zoo.world.IsHierarchy ∧ Zoo.world.IsWellNamed ∧
    (Blueprint.ofRequest Zoo.world Zoo.request).problem.solve .steady 20 () =
      (.ok ⟨#[true, true], #[], 8⟩, ()) ∧
    let m : Model := ⟨.ofRequest Zoo.world Zoo.request, ⟨#[true, true], #[], 8⟩⟩
    m.blueprint.requested.length = 1 ∧ m.blueprint.requested.Nodup ∧
      (∀ i ∈ m.blueprint.requested, i < m.size ∧
        (m.being i).kinds = Blueprint.declaredKinds Zoo.world [Zoo.animal] [] ∧
        (m.being i).modifiers = []) ∧
      ∀ i < m.size, m.Conforms i := by
  have solved : (Blueprint.ofRequest Zoo.world Zoo.request).problem.solve .steady 20 () =
      (.ok ⟨#[true, true], #[], 8⟩, ()) := by
    rw [Zoo.problem_ofRequest]
    exact Zoo.solve_problem
  exact ⟨Zoo.isHierarchy_world, Zoo.isWellNamed_world, solved,
    conforms_of_solve Zoo.isHierarchy_world Zoo.isWellNamed_world solved⟩

end Worldsmith
