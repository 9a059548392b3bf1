import Mathlib.Data.List.Forall2
import Mathlib.Tactic.Common
import Worldsmith.Blueprint.Growth
import Worldsmith.Proofs.Logic.Building

/-!
# Blueprints that grow

While a blueprint is made, nothing in it is taken back: beings stay what they are, propositions keep
their names, and constraints stay. What has been written down about a being is therefore still there
when the blueprint is complete.

## Main definitions

* `Blueprint.Denotes` — a literal says that a being has a trait.
* `Blueprint.Asserted`, `Blueprint.Expanded`, `Blueprint.Declared` — everything about a membership
  or a being has been written down.
* `Blueprint.Serves` — a variable is the menu of a property.
* `Blueprint.Means` — a proposition was made to say something.
* `Blueprint.Survives` — beings stay, and so do memberships that have been asserted or expanded.
* `Blueprint.Extends` — one blueprint holds at least what another does.
-/

namespace Worldsmith

/-- A being without its parts and properties. This much never changes. -/
def Being.essence (being : Being) : Being := { being with parts := [], properties := [] }

namespace Blueprint

variable {b b' last : Blueprint} {i : Nat} {kind : Id .kind} {quality : Quality} {trait : Trait}
  {p : Proposition} {l member : Literal}

/-- Of a being that there is not nothing is known. -/
theorem being_of_size_le (outside : b.beings.size ≤ i) : b.being i = default := by
  simp [Blueprint.being, Array.getD_eq_getD_getElem?, Array.getElem?_eq_none outside]

/-- The name of the proposition that a being has a quality. -/
def qualityName (b : Blueprint) (i : Nat) (quality : Quality) : String :=
  Problem.unaryName (b.world.qualityName quality) (b.being i).name

/-- Whether a constraint is part of the problem. -/
def Demands (b : Blueprint) (constraint : Constraint) : Prop :=
  constraint ∈ b.problem.constraints.toList

/-! ## Literals about beings -/

/-- Whether a proposition is the one that a being has a quality. If the quality is a kind that the
being cannot be of, the proposition is denied. -/
structure Names (b : Blueprint) (p : Proposition) (i : Nat) (quality : Quality) : Prop where
  name? : b.problem.name? p = some (b.qualityName i quality)
  denied : ∀ kind, quality = .kind kind → b.couldBe i kind = false →
    b.Demands (.clause [p.negative])

/-- Whether a literal says that a being has a trait. -/
structure Denotes (b : Blueprint) (l : Literal) (i : Nat) (trait : Trait) : Prop where
  names : b.Names l.proposition i trait.quality
  positive : l.positive = trait.positive

/-- Whether literals say that a being has some traits. -/
def Spells (b : Blueprint) (literals : List Literal) (i : Nat) (traits : List Trait) : Prop :=
  List.Forall₂ (b.Denotes · i ·) literals traits

theorem Names.has (h : b.Names p i quality) : b.problem.Has p := Problem.has_of_name? h.name?

theorem Denotes.has (h : b.Denotes l i trait) : b.problem.Has l.proposition := h.names.has

theorem Names.positive (h : b.Names p i quality) : b.Denotes p.positive i ⟨quality, true⟩ :=
  ⟨h, rfl⟩

theorem Spells.has {literals : List Literal} {traits : List Trait}
    (h : b.Spells literals i traits) : ∀ l ∈ literals, b.problem.Has l.proposition := by
  induction h with
  | nil => simp
  | cons denotes _ ih => exact List.forall_mem_cons.mpr ⟨denotes.has, ih⟩

theorem Spells.exists_denotes {literals : List Literal} {traits : List Trait}
    (h : b.Spells literals i traits) : ∀ l ∈ literals, ∃ trait ∈ traits, b.Denotes l i trait := by
  induction h with
  | nil => simp
  | cons denotes _ ih =>
    refine List.forall_mem_cons.mpr ⟨⟨_, List.mem_cons_self, denotes⟩, ?_⟩
    intro l hl
    obtain ⟨trait, mem, denotes⟩ := ih l hl
    exact ⟨trait, List.mem_cons_of_mem _ mem, denotes⟩

theorem Spells.exists_literal {literals : List Literal} {traits : List Trait}
    (h : b.Spells literals i traits) : ∀ trait ∈ traits, ∃ l ∈ literals, b.Denotes l i trait := by
  induction h with
  | nil => simp
  | cons denotes _ ih =>
    refine List.forall_mem_cons.mpr ⟨⟨_, List.mem_cons_self, denotes⟩, ?_⟩
    intro trait ht
    obtain ⟨l, mem, denotes⟩ := ih trait ht
    exact ⟨l, List.mem_cons_of_mem _ mem, denotes⟩

/-! ## What is written down -/

/-- Whether it has been asserted that a being has a trait. -/
def Claims (b : Blueprint) (i : Nat) (trait : Trait) : Prop :=
  ∃ l, b.Denotes l i trait ∧ b.Demands (.clause [l])

/-- Whether it has been denied that a being is of a kind. -/
def Denies (b : Blueprint) (i : Nat) (kind : Id .kind) : Prop :=
  ∃ p, b.problem.name? p = some (b.qualityName i (.kind kind)) ∧
    b.Demands (.clause [p.negative])

/-- Whether members of a kind have to be of exactly one of the kinds just below, and others of
none. -/
def Divides (b : Blueprint) (i : Nat) (member : Literal) (subkinds : List (Id .kind)) : Prop :=
  subkinds ≠ [] → ∃ choices, b.Spells choices i (subkinds.map fun sub => ⟨.kind sub, true⟩) ∧
    b.Demands (.between 1 1 (member.negate :: choices).eraseDups)

/-- Whether members of a kind have to be of another. -/
def Lifts (b : Blueprint) (i : Nat) (member : Literal) (parent : Id .kind) : Prop :=
  ∃ l, b.Denotes l i ⟨.kind parent, true⟩ ∧ b.Demands (.clause [member.negate, l].eraseDups)

/-- Whether members of a kind for which the conditions hold have to have the consequent. -/
def Implies (b : Blueprint) (i : Nat) (member : Literal) (implication : Implication) : Prop :=
  ∃ conditions consequent, b.Spells conditions i implication.conditions ∧
    b.Denotes consequent i implication.consequent ∧ b.Demands
      (.clause (member.negate :: conditions.map Literal.negate ++ [consequent]).eraseDups)

/-- Whether of members of a kind the right number of alternatives has to hold. -/
def Bounds (b : Blueprint) (i : Nat) (member : Literal) (set : AlternativeSet) : Prop :=
  ∃ literals, b.Spells literals i set.alternatives ∧
    b.Demands ((Constraint.between set.low set.high literals.eraseDups).guarded member)

/-- Whether a membership has been asserted with all that is above it. -/
structure Asserted (b : Blueprint) (i : Nat) (kind : Id .kind) : Prop where
  claims : b.Claims i ⟨.kind kind, true⟩
  superkinds : ∀ parent ∈ (b.world.kind kind).superkinds, (i, parent) ∈ b.asserted
  expanded : (i, kind) ∈ b.expanded

/-- Whether everything that follows from a membership has been written down. -/
structure Entails (b : Blueprint) (i : Nat) (kind : Id .kind) (member : Literal) : Prop where
  denotes : b.Denotes member i ⟨.kind kind, true⟩
  divides : b.Divides i member (b.world.kind kind).subkinds
  subkinds : ∀ sub ∈ (b.world.kind kind).subkinds, b.couldBe i sub = true →
    (i, sub) ∈ b.expanded
  lifts : ∀ parent ∈ (b.world.kind kind).superkinds, b.Lifts i member parent
  superkinds : ∀ parent ∈ (b.world.kind kind).superkinds, (i, parent) ∈ b.expanded
  implications : ∀ implication ∈ (b.world.kind kind).implications, b.Implies i member implication
  alternatives : ∀ set ∈ (b.world.kind kind).alternativeSets, b.Bounds i member set

def Expanded (b : Blueprint) (i : Nat) (kind : Id .kind) : Prop := ∃ member, b.Entails i kind member

/-- Whether a being's kinds and modifiers have been asserted. -/
structure Declared (b : Blueprint) (i : Nat) : Prop where
  kinds : ∀ kind ∈ (b.being i).kinds, (i, kind) ∈ b.asserted
  modifiers : ∀ trait ∈ (b.being i).modifiers, b.Claims i trait

/-- Whether a property of a being is the menu that its domain says, and the value that the world has
fixed is chosen if it is on the menu. Nothing is said of properties that are no menus. -/
def Serves (b : Blueprint) (i : Nat) (id : Id .property) (v : Nat) : Prop :=
  ∀ source values restrictions,
    (b.world.property id).domain = .menu source values restrictions →
      ∃ name guard choices, b.problem.unknowns[v]? = some ⟨name, guard, .menu values choices⟩ ∧
        ∀ value choice, b.fixedValue? i id = some value →
          b.problem.menuChoice? v value = some choice → b.Demands (.clause [choice.positive])

/-- Whether a proposition says that a being has a quality, or anything else: what says that a being
stands in a relation to another, or that a menu takes a value, is told by a sign in its name. -/
inductive Means (b : Blueprint) (p : Proposition) : Prop where
  | quality {i : Nat} {quality : Quality} (hi : i < b.beings.size) (names : b.Names p i quality)
  | other {name : String} (name? : b.problem.name? p = some name)
    (sign : ',' ∈ name.toList ∨ '=' ∈ name.toList)

/-! ## Extending -/

/-- Beings stay what they are, and memberships that have been asserted or expanded stay so. -/
structure Survives (b b' : Blueprint) : Prop where
  world : b'.world = b.world
  size_le : b.beings.size ≤ b'.beings.size
  essence : ∀ i < b.beings.size, (b'.being i).essence = (b.being i).essence
  asserted : ∀ m ∈ b.asserted, m ∈ b'.asserted
  expanded : ∀ m ∈ b.expanded, m ∈ b'.expanded

namespace Survives

theorem trans (h : b.Survives b') (g : b'.Survives last) : b.Survives last where
  world := g.world.trans h.world
  size_le := Nat.le_trans h.size_le g.size_le
  essence i hi := (g.essence i (Nat.lt_of_lt_of_le hi h.size_le)).trans (h.essence i hi)
  asserted m mem := g.asserted m (h.asserted m mem)
  expanded m mem := g.expanded m (h.expanded m mem)

variable (h : b.Survives b') (hi : i < b.beings.size)
include h hi

theorem lt_size : i < b'.beings.size := Nat.lt_of_lt_of_le hi h.size_le

theorem kinds_eq : (b'.being i).kinds = (b.being i).kinds := by
  have same := congrArg Being.kinds (h.essence i hi)
  exact same

theorem permanent_eq : (b'.being i).permanent = (b.being i).permanent := by
  have same := congrArg Being.permanent (h.essence i hi)
  exact same

theorem container_eq : (b'.being i).container = (b.being i).container := by
  have same := congrArg Being.container (h.essence i hi)
  exact same

theorem depth_eq : (b'.being i).depth = (b.being i).depth := by
  have same := congrArg Being.depth (h.essence i hi)
  exact same

theorem couldBe_eq (kind : Id .kind) : b'.couldBe i kind = b.couldBe i kind := by
  rw [couldBe, couldBe, h.world, h.kinds_eq hi]

end Survives

/-- One blueprint holds at least what another does. -/
structure Extends (b b' : Blueprint) : Prop where
  world : b'.world = b.world
  problem : b.problem.Extends b'.problem
  size_le : b.beings.size ≤ b'.beings.size
  essence : ∀ i < b.beings.size, (b'.being i).essence = (b.being i).essence
  asserted : ∀ m ∈ b.asserted, m ∈ b'.asserted
  expanded : ∀ m ∈ b.expanded, m ∈ b'.expanded

namespace Extends

theorem refl (b : Blueprint) : b.Extends b :=
  ⟨rfl, .refl _, Nat.le_refl _, fun _ _ => rfl, fun _ => id, fun _ => id⟩

theorem trans (h : b.Extends b') (g : b'.Extends last) : b.Extends last where
  world := g.world.trans h.world
  problem := h.problem.trans g.problem
  size_le := Nat.le_trans h.size_le g.size_le
  essence i hi := (g.essence i (Nat.lt_of_lt_of_le hi h.size_le)).trans (h.essence i hi)
  asserted m mem := g.asserted m (h.asserted m mem)
  expanded m mem := g.expanded m (h.expanded m mem)

variable (h : b.Extends b') (hi : i < b.beings.size)
include h

theorem survives : b.Survives b' :=
  ⟨h.world, h.size_le, h.essence, h.asserted, h.expanded⟩

theorem lt_size (hi : i < b.beings.size) : i < b'.beings.size := h.survives.lt_size hi

theorem demands {constraint : Constraint} (demands : b.Demands constraint) :
    b'.Demands constraint :=
  h.problem.mem_constraints demands

include hi

theorem name_eq : (b'.being i).name = (b.being i).name := by
  have same := congrArg Being.name (h.essence i hi)
  exact same

theorem kinds_eq : (b'.being i).kinds = (b.being i).kinds := h.survives.kinds_eq hi

theorem modifiers_eq : (b'.being i).modifiers = (b.being i).modifiers := by
  have same := congrArg Being.modifiers (h.essence i hi)
  exact same

theorem qualityName_eq (quality : Quality) :
    b'.qualityName i quality = b.qualityName i quality := by
  rw [qualityName, qualityName, h.world, h.name_eq hi]

theorem couldBe_eq (kind : Id .kind) : b'.couldBe i kind = b.couldBe i kind :=
  h.survives.couldBe_eq hi kind

theorem names (names : b.Names p i quality) : b'.Names p i quality where
  name? := by
    rw [h.qualityName_eq hi]
    exact h.problem.name?_eq_some names.name?
  denied kind same could := h.demands (names.denied kind same (h.couldBe_eq hi kind ▸ could))

theorem denotes (denotes : b.Denotes l i trait) : b'.Denotes l i trait :=
  ⟨h.names hi denotes.names, denotes.positive⟩

theorem spells {literals : List Literal} {traits : List Trait}
    (spells : b.Spells literals i traits) : b'.Spells literals i traits :=
  spells.imp fun _ _ => h.denotes hi

theorem claims (claims : b.Claims i trait) : b'.Claims i trait := by
  obtain ⟨l, denotes, demands⟩ := claims
  exact ⟨l, h.denotes hi denotes, h.demands demands⟩

theorem denies (denies : b.Denies i kind) : b'.Denies i kind := by
  obtain ⟨p, name, demands⟩ := denies
  refine ⟨p, ?_, h.demands demands⟩
  rw [h.qualityName_eq hi]
  exact h.problem.name?_eq_some name

theorem divides {subkinds : List (Id .kind)} (divides : b.Divides i member subkinds) :
    b'.Divides i member subkinds := by
  intro some_subkind
  obtain ⟨choices, spells, demands⟩ := divides some_subkind
  exact ⟨choices, h.spells hi spells, h.demands demands⟩

theorem lifts {parent : Id .kind} (lifts : b.Lifts i member parent) :
    b'.Lifts i member parent := by
  obtain ⟨l, denotes, demands⟩ := lifts
  exact ⟨l, h.denotes hi denotes, h.demands demands⟩

theorem implies {implication : Implication} (implies : b.Implies i member implication) :
    b'.Implies i member implication := by
  obtain ⟨conditions, consequent, spells, denotes, demands⟩ := implies
  exact ⟨conditions, consequent, h.spells hi spells, h.denotes hi denotes, h.demands demands⟩

theorem bounds {set : AlternativeSet} (bounds : b.Bounds i member set) :
    b'.Bounds i member set := by
  obtain ⟨literals, spells, demands⟩ := bounds
  exact ⟨literals, h.spells hi spells, h.demands demands⟩

theorem isAsserted (asserted : b.Asserted i kind) : b'.Asserted i kind where
  claims := h.claims hi asserted.claims
  superkinds parent mem := h.asserted _ (asserted.superkinds parent (h.world ▸ mem))
  expanded := h.expanded _ asserted.expanded

theorem isExpanded (expanded : b.Expanded i kind) : b'.Expanded i kind := by
  obtain ⟨member, entails⟩ := expanded
  have world := h.world
  refine ⟨member, h.denotes hi entails.denotes, ?_, ?_, ?_, ?_, ?_, ?_⟩
  · exact world ▸ h.divides hi entails.divides
  · intro sub mem could
    exact h.expanded _ (entails.subkinds sub (world ▸ mem) (h.couldBe_eq hi sub ▸ could))
  · exact fun parent mem => h.lifts hi (entails.lifts parent (world ▸ mem))
  · exact fun parent mem => h.expanded _ (entails.superkinds parent (world ▸ mem))
  · exact fun _ mem => h.implies hi (entails.implications _ (world ▸ mem))
  · exact fun _ mem => h.bounds hi (entails.alternatives _ (world ▸ mem))

theorem isDeclared (declared : b.Declared i) : b'.Declared i where
  kinds kind mem := h.asserted _ (declared.kinds kind (h.kinds_eq hi ▸ mem))
  modifiers _ mem := h.claims hi (declared.modifiers _ (h.modifiers_eq hi ▸ mem))

theorem fixedValue?_eq (id : Id .property) : b'.fixedValue? i id = b.fixedValue? i id := by
  rw [fixedValue?, fixedValue?, h.world, h.survives.permanent_eq hi]

theorem serves {id : Id .property} {v : Nat} (serves : b.Serves i id v) : b'.Serves i id v := by
  intro source values restrictions domain
  rw [h.world] at domain
  obtain ⟨name, guard, choices, known, fixed⟩ := serves source values restrictions domain
  refine ⟨name, guard, choices, h.problem.unknown?_eq_some known, fun value choice is chosen => ?_⟩
  rw [h.fixedValue?_eq hi] at is
  rw [Problem.menuChoice?, h.problem.menu?_eq known] at chosen
  exact h.demands (fixed value choice is chosen)

omit hi in
theorem means (means : b.Means p) : b'.Means p := by
  cases means with
  | quality hi names => exact .quality (h.lt_size hi) (h.names hi names)
  | other name? sign => exact .other (h.problem.name?_eq_some name?) sign

end Extends

end Blueprint

end Worldsmith
