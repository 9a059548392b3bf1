import Worldsmith.Proofs.World.Names

/-!
# What records refer to

The records of a world refer to each other by their numbers. In a world in order they refer only to
what is there, and since nothing is ever taken out of a world, that stays so while it grows.

## Main definitions

* `World.Owns` — an identifier is of something in the world.
* `World.Grows` — a world has at least as much as another.
* `World.IsClosed` — all records refer to what is in the world.
* `World.Amends` — whatever has come to a world refers to what was there already.
-/

namespace Worldsmith

namespace World

variable {world later last : World} {category : Category} {id : Id category} {concept : Concept}

/-- How much there is of a category. -/
def count (world : World) : Category → Nat
  | .kind => world.kinds.size
  | .adjective => world.adjectives.size
  | .verb => world.verbs.size
  | .property => world.properties.size
  | .part => world.parts.size
  | .individual => world.individuals.size

/-- Whether an identifier is of something in the world. -/
def Owns (world : World) {category : Category} (id : Id category) : Prop :=
  id.index < world.count category

/-- Whether a world has at least as much as another. -/
def Grows (world later : World) : Prop := ∀ category, world.count category ≤ later.count category

theorem grows_self (world : World) : world.Grows world := fun _ => Nat.le_refl _

theorem Grows.trans (h : world.Grows later) (g : later.Grows last) : world.Grows last :=
  fun category => Nat.le_trans (h category) (g category)

theorem Owns.mono (owned : world.Owns id) (grows : world.Grows later) : later.Owns id :=
  Nat.lt_of_lt_of_le owned (grows category)

theorem Grows.holds (grows : world.Grows later) (held : world.Holds concept) :
    later.Holds concept := by
  cases concept with
  | kind => exact Nat.lt_of_lt_of_le held (grows .kind)
  | adjective => exact Nat.lt_of_lt_of_le held (grows .adjective)
  | verb => exact Nat.lt_of_lt_of_le held (grows .verb)
  | individual => exact Nat.lt_of_lt_of_le held (grows .individual)

end World

open World

/-! ## Records -/

def Quality.IsIn (world : World) : Quality → Prop
  | .kind id => world.Owns id
  | .adjective id => world.Owns id

def Trait.IsIn (world : World) (trait : Trait) : Prop := trait.quality.IsIn world

/-- Whether all that a kind refers to is in the world. -/
structure Kind.IsIn (world : World) (kind : Kind) : Prop where
  superkinds : ∀ id ∈ kind.superkinds, world.Owns id
  subkinds : ∀ id ∈ kind.subkinds, world.Owns id
  adjectives : ∀ id ∈ kind.adjectives, world.Owns id
  alternatives : ∀ set ∈ kind.alternativeSets, ∀ trait ∈ set.alternatives, trait.IsIn world
  conditions : ∀ implication ∈ kind.implications, ∀ trait ∈ implication.conditions,
    trait.IsIn world
  consequents : ∀ implication ∈ kind.implications, implication.consequent.IsIn world
  properties : ∀ id ∈ kind.properties, world.Owns id
  parts : ∀ id ∈ kind.parts, world.Owns id

def Adjective.IsIn (world : World) (adjective : Adjective) : Prop :=
  ∀ id ∈ adjective.relevantTo, world.Owns id

/-- Whether all that a verb refers to is in the world. -/
structure Verb.IsIn (world : World) (verb : Verb) : Prop where
  subjectKind : ∀ id ∈ verb.subjectKind, world.Owns id
  objectKind : ∀ id ∈ verb.objectKind, world.Owns id
  subjectModifiers : ∀ trait ∈ verb.subjectModifiers, trait.IsIn world
  objectModifiers : ∀ trait ∈ verb.objectModifiers, trait.IsIn world
  exclusions : ∀ id ∈ verb.exclusions, world.Owns id
  generalizations : ∀ id ∈ verb.generalizations, world.Owns id
  superspecies : ∀ id ∈ verb.superspecies, world.Owns id
  subspecies : ∀ id ∈ verb.subspecies, world.Owns id

def PropertyDomain.IsIn (world : World) : PropertyDomain → Prop
  | .menu _ _ restrictions =>
    ∀ restriction ∈ restrictions, ∀ trait ∈ restriction.conditions, trait.IsIn world
  | .range _ _ | .text => True

structure Property.IsIn (world : World) (property : Property) : Prop where
  owner : world.Owns property.owner
  domain : property.domain.IsIn world

structure Part.IsIn (world : World) (part : Part) : Prop where
  owner : world.Owns part.owner
  kind : world.Owns part.kind
  modifiers : ∀ trait ∈ part.modifiers, trait.IsIn world

structure Individual.IsIn (world : World) (individual : Individual) : Prop where
  kinds : ∀ id ∈ individual.kinds, world.Owns id
  modifiers : ∀ trait ∈ individual.modifiers, trait.IsIn world
  properties : ∀ value ∈ individual.properties, world.Owns value.1

structure Expectation.IsIn (world : World) (expectation : Expectation) : Prop where
  kind : world.Owns expectation.kind
  modifiers : ∀ trait ∈ expectation.modifiers, trait.IsIn world

section Growing

variable {world later : World} (grows : world.Grows later)
include grows

theorem Trait.IsIn.mono {trait : Trait} (isIn : trait.IsIn world) : trait.IsIn later := by
  obtain ⟨quality, positive⟩ := trait
  cases quality with
  | kind | adjective => exact Owns.mono isIn grows

theorem forall_isIn_mono {traits : List Trait} (isIn : ∀ trait ∈ traits, trait.IsIn world) :
    ∀ trait ∈ traits, trait.IsIn later :=
  fun trait mem => (isIn trait mem).mono grows

theorem Kind.IsIn.mono {kind : Kind} (isIn : kind.IsIn world) : kind.IsIn later where
  superkinds id mem := (isIn.superkinds id mem).mono grows
  subkinds id mem := (isIn.subkinds id mem).mono grows
  adjectives id mem := (isIn.adjectives id mem).mono grows
  alternatives set mem trait among := (isIn.alternatives set mem trait among).mono grows
  conditions i mem trait among := (isIn.conditions i mem trait among).mono grows
  consequents i mem := (isIn.consequents i mem).mono grows
  properties id mem := (isIn.properties id mem).mono grows
  parts id mem := (isIn.parts id mem).mono grows

theorem Adjective.IsIn.mono {adjective : Adjective} (isIn : adjective.IsIn world) :
    adjective.IsIn later :=
  fun id mem => (isIn id mem).mono grows

theorem Verb.IsIn.mono {verb : Verb} (isIn : verb.IsIn world) : verb.IsIn later where
  subjectKind id mem := (isIn.subjectKind id mem).mono grows
  objectKind id mem := (isIn.objectKind id mem).mono grows
  subjectModifiers trait mem := (isIn.subjectModifiers trait mem).mono grows
  objectModifiers trait mem := (isIn.objectModifiers trait mem).mono grows
  exclusions id mem := (isIn.exclusions id mem).mono grows
  generalizations id mem := (isIn.generalizations id mem).mono grows
  superspecies id mem := (isIn.superspecies id mem).mono grows
  subspecies id mem := (isIn.subspecies id mem).mono grows

theorem PropertyDomain.IsIn.mono {domain : PropertyDomain} (isIn : domain.IsIn world) :
    domain.IsIn later := by
  cases domain with
  | menu => exact fun restriction mem trait among => (isIn restriction mem trait among).mono grows
  | range | text => trivial

theorem Property.IsIn.mono {property : Property} (isIn : property.IsIn world) :
    property.IsIn later :=
  ⟨isIn.owner.mono grows, isIn.domain.mono grows⟩

theorem Part.IsIn.mono {part : Part} (isIn : part.IsIn world) : part.IsIn later :=
  ⟨isIn.owner.mono grows, isIn.kind.mono grows,
    fun trait mem => (isIn.modifiers trait mem).mono grows⟩

theorem Individual.IsIn.mono {individual : Individual} (isIn : individual.IsIn world) :
    individual.IsIn later where
  kinds id mem := (isIn.kinds id mem).mono grows
  modifiers trait mem := (isIn.modifiers trait mem).mono grows
  properties value mem := (isIn.properties value mem).mono grows

theorem Expectation.IsIn.mono {expectation : Expectation} (isIn : expectation.IsIn world) :
    expectation.IsIn later :=
  ⟨isIn.kind.mono grows, fun trait mem => (isIn.modifiers trait mem).mono grows⟩

end Growing

/-! ## Worlds -/

namespace World

variable {world later : World}

theorem mem_modifyKind {id : Id .kind} {f : Kind → Kind} {kind : Kind}
    (mem : kind ∈ (world.modifyKind id f).kinds) :
    kind ∈ world.kinds ∨ ∃ old ∈ world.kinds, kind = f old :=
  mem_modify mem

theorem mem_modifyAdjective {id : Id .adjective} {f : Adjective → Adjective}
    {adjective : Adjective} (mem : adjective ∈ (world.modifyAdjective id f).adjectives) :
    adjective ∈ world.adjectives ∨ ∃ old ∈ world.adjectives, adjective = f old :=
  mem_modify mem

theorem mem_modifyVerb {id : Id .verb} {f : Verb → Verb} {verb : Verb}
    (mem : verb ∈ (world.modifyVerb id f).verbs) :
    verb ∈ world.verbs ∨ ∃ old ∈ world.verbs, verb = f old :=
  mem_modify mem

theorem mem_modifyProperty {id : Id .property} {f : Property → Property} {property : Property}
    (mem : property ∈ (world.modifyProperty id f).properties) :
    property ∈ world.properties ∨ ∃ old ∈ world.properties, property = f old :=
  mem_modify mem

theorem mem_modifyIndividual {id : Id .individual} {f : Individual → Individual}
    {individual : Individual} (mem : individual ∈ (world.modifyIndividual id f).individuals) :
    individual ∈ world.individuals ∨ ∃ old ∈ world.individuals, individual = f old :=
  mem_modify mem

/-- Whether all records of a world refer to what is in the world. -/
structure IsClosed (world : World) : Prop where
  kinds : ∀ kind ∈ world.kinds, kind.IsIn world
  adjectives : ∀ adjective ∈ world.adjectives, adjective.IsIn world
  verbs : ∀ verb ∈ world.verbs, verb.IsIn world
  properties : ∀ property ∈ world.properties, property.IsIn world
  parts : ∀ part ∈ world.parts, part.IsIn world
  individuals : ∀ individual ∈ world.individuals, individual.IsIn world
  expectations : ∀ expectation ∈ world.expectations, expectation.IsIn world

theorem isClosed_empty : empty.IsClosed := by constructor <;> simp [empty]

namespace IsClosed

variable (closed : world.IsClosed)
include closed

/-- What is looked up refers to what is in the world, even if it is not there itself. -/
theorem kind (id : Id .kind) : (world.kind id).IsIn world := by
  rw [World.kind, Array.getD_eq_getD_getElem?]
  cases found : world.kinds[id.index]? with
  | none => constructor <;> rintro _ ⟨⟩
  | some kind => exact closed.kinds kind (Array.mem_of_getElem? found)

theorem property (id : Id .property) : (world.property id).domain.IsIn world := by
  rw [World.property, Array.getD_eq_getD_getElem?]
  cases found : world.properties[id.index]? with
  | none => trivial
  | some property => exact (closed.properties property (Array.mem_of_getElem? found)).domain

theorem individual (id : Id .individual) : (world.individual id).IsIn world := by
  rw [World.individual, Array.getD_eq_getD_getElem?]
  cases found : world.individuals[id.index]? with
  | none => constructor <;> rintro _ ⟨⟩
  | some individual => exact closed.individuals individual (Array.mem_of_getElem? found)

end IsClosed

/-- Whether whatever has come to a world refers to what was there already. Records of which nothing
is said are those that were there. -/
structure Amends (world later : World) : Prop where
  grows : world.Grows later
  kinds : ∀ kind ∈ later.kinds, kind ∈ world.kinds ∨ kind.IsIn world := by
    exact fun _ => .inl
  adjectives : ∀ adjective ∈ later.adjectives,
      adjective ∈ world.adjectives ∨ adjective.IsIn world := by
    exact fun _ => .inl
  verbs : ∀ verb ∈ later.verbs, verb ∈ world.verbs ∨ verb.IsIn world := by
    exact fun _ => .inl
  properties : ∀ property ∈ later.properties,
      property ∈ world.properties ∨ property.IsIn world := by
    exact fun _ => .inl
  parts : ∀ part ∈ later.parts, part ∈ world.parts ∨ part.IsIn world := by
    exact fun _ => .inl
  individuals : ∀ individual ∈ later.individuals,
      individual ∈ world.individuals ∨ individual.IsIn world := by
    exact fun _ => .inl
  expectations : ∀ expectation ∈ later.expectations,
      expectation ∈ world.expectations ∨ expectation.IsIn world := by
    exact fun _ => .inl

/-- In a world that has grown the records that were there refer to what is there still. -/
theorem IsClosed.of_amends (closed : world.IsClosed) (amends : world.Amends later) :
    later.IsClosed where
  kinds kind mem := ((amends.kinds kind mem).elim (closed.kinds kind) id).mono amends.grows
  adjectives adjective mem :=
    ((amends.adjectives adjective mem).elim (closed.adjectives adjective) id).mono amends.grows
  verbs verb mem := ((amends.verbs verb mem).elim (closed.verbs verb) id).mono amends.grows
  properties property mem :=
    ((amends.properties property mem).elim (closed.properties property) id).mono amends.grows
  parts part mem := ((amends.parts part mem).elim (closed.parts part) id).mono amends.grows
  individuals individual mem :=
    ((amends.individuals individual mem).elim (closed.individuals individual) id).mono amends.grows
  expectations expectation mem :=
    ((amends.expectations expectation mem).elim (closed.expectations expectation) id).mono
      amends.grows

end World

end Worldsmith
