import Worldsmith.Language.Lexicon
import Worldsmith.Language.Template
import Worldsmith.World.Concept

/-!
# Worlds

A world holds kinds, adjectives, verbs, properties, parts and individuals, each in the order of
creation, and a lexicon that leads from their names to them. Nothing is ever taken out of a world.
-/

namespace Worldsmith

/-- Between `low` and `high` of the alternatives hold of every member of a kind. -/
structure AlternativeSet where
  alternatives : List Trait
  low : Nat
  high : Nat
  deriving DecidableEq, Repr

/-- Members of a kind for which the conditions hold have the consequent too. -/
structure Implication where
  conditions : List Trait
  consequent : Trait
  deriving DecidableEq, Repr

/-- What a common noun stands for. -/
structure Kind where
  singular : Name
  plural : Name
  /-- The kinds just above. -/
  superkinds : List (Id .kind)
  /-- The kinds just below. -/
  subkinds : List (Id .kind)
  /-- Adjectives that members may have. -/
  adjectives : List (Id .adjective)
  alternativeSets : List AlternativeSet
  implications : List Implication
  properties : List (Id .property)
  parts : List (Id .part)
  nameTemplate : Option Template
  descriptionTemplate : Option Template
  deriving DecidableEq, Inhabited

/-- A kind that nothing is known of but its name. -/
def Kind.named (singular plural : Name) : Kind :=
  ⟨singular, plural, [], [], [], [], [], [], [], none, none⟩

structure Adjective where
  name : Name
  /-- Whether it goes without saying. -/
  silent : Bool
  /-- The kinds whose members may have it. -/
  relevantTo : List (Id .kind)
  deriving Inhabited

/-- A relation between members of two kinds. -/
structure Verb where
  /-- The form after "can" and after plural subjects. -/
  base : Name
  /-- The form after singular subjects. -/
  thirdPerson : Name
  gerund : Name
  subjectKind : Option (Id .kind)
  objectKind : Option (Id .kind)
  subjectModifiers : List Trait
  objectModifiers : List Trait
  /-- The least number of objects of a subject. -/
  lowerBound : Option Nat
  /-- The greatest number of objects of a subject. -/
  upperBound : Option Nat
  reflexive : Bool
  antiReflexive : Bool
  symmetric : Bool
  antiSymmetric : Bool
  /-- How likely it is tried that the relation holds. -/
  density : Float
  exclusions : List (Id .verb)
  /-- Relations that this one implies. -/
  generalizations : List (Id .verb)
  /-- Relations that this one is a way of. -/
  superspecies : List (Id .verb)
  /-- Ways of this relation. At most one of them holds between two individuals. -/
  subspecies : List (Id .verb)
  deriving Inhabited

namespace Verb

def defaultDensity : Float := 0.5

/-- Densities that have a word. -/
def densityWords : List (String × Float) :=
  [("very rare", 0.03), ("rare", 0.1), ("common", 0.9), ("very common", 0.97)]

/-- A verb that nothing is known of but its forms. -/
def named (base thirdPerson gerund : Name) : Verb :=
  ⟨base, thirdPerson, gerund, none, none, [], [], none, none, false, false, false, false,
    defaultDensity, [], [], [], []⟩

/-- Whether a subject has at most one object. -/
def isFunctional (verb : Verb) : Bool :=
  verb.upperBound == some 1

/-- Whether a subject has at least one object. -/
def isTotal (verb : Verb) : Bool :=
  verb.lowerBound.any (1 ≤ ·)

end Verb

/-- If the conditions hold, the value is one of these. -/
structure MenuRestriction where
  conditions : List Trait
  values : List String
  deriving DecidableEq, Repr

/-- The values that a property can have. -/
inductive PropertyDomain where
  | range (low high : Float)
  /-- One of the values in a file. -/
  | menu (source : String) (values : List String) (restrictions : List MenuRestriction)
  /-- Anything; it is only ever set by a statement. -/
  | text
  deriving Inhabited

structure Property where
  name : Name
  owner : Id .kind
  domain : PropertyDomain
  deriving Inhabited

/-- Something of its own that every member of a kind has. -/
structure Part where
  name : Name
  owner : Id .kind
  kind : Id .kind
  modifiers : List Trait
  deriving Inhabited

/-- What a proper noun stands for. -/
structure Individual where
  name : Name
  /-- The most specific kinds it is said to be of. -/
  kinds : List (Id .kind)
  modifiers : List Trait
  /-- Values that statements have fixed. -/
  properties : List (Id .property × String)
  deriving Inhabited

/-- A statement that something can or cannot exist. -/
structure Expectation where
  kind : Id .kind
  modifiers : List Trait
  shouldExist : Bool
  /-- The statement as typed. -/
  text : String
  deriving Inhabited, DecidableEq, Repr

structure World where
  kinds : Array Kind
  adjectives : Array Adjective
  verbs : Array Verb
  properties : Array Property
  parts : Array Part
  individuals : Array Individual
  expectations : Array Expectation
  lexicon : Lexicon Concept

namespace World

def empty : World := ⟨#[], #[], #[], #[], #[], #[], #[], .empty⟩

instance : Inhabited World := ⟨empty⟩

/-! ## Looking things up -/

def kind (world : World) (id : Id .kind) : Kind := world.kinds.getD id.index default

def adjective (world : World) (id : Id .adjective) : Adjective :=
  world.adjectives.getD id.index default

def verb (world : World) (id : Id .verb) : Verb := world.verbs.getD id.index default

def property (world : World) (id : Id .property) : Property :=
  world.properties.getD id.index default

def part (world : World) (id : Id .part) : Part := world.parts.getD id.index default

def individual (world : World) (id : Id .individual) : Individual :=
  world.individuals.getD id.index default

/-- What a name stands for. -/
def find? (world : World) (name : Name) : Option (Entry Concept) :=
  world.lexicon.get? name

def kindIds (world : World) : List (Id .kind) := Id.upTo world.kinds.size

def adjectiveIds (world : World) : List (Id .adjective) := Id.upTo world.adjectives.size

def verbIds (world : World) : List (Id .verb) := Id.upTo world.verbs.size

def individualIds (world : World) : List (Id .individual) := Id.upTo world.individuals.size

/-! ## Changing one thing -/

def modifyKind (world : World) (id : Id .kind) (f : Kind → Kind) : World :=
  { world with kinds := world.kinds.modify id.index f }

def modifyAdjective (world : World) (id : Id .adjective) (f : Adjective → Adjective) : World :=
  { world with adjectives := world.adjectives.modify id.index f }

def modifyVerb (world : World) (id : Id .verb) (f : Verb → Verb) : World :=
  { world with verbs := world.verbs.modify id.index f }

def modifyProperty (world : World) (id : Id .property) (f : Property → Property) : World :=
  { world with properties := world.properties.modify id.index f }

def modifyIndividual (world : World) (id : Id .individual) (f : Individual → Individual) : World :=
  { world with individuals := world.individuals.modify id.index f }

/-! ## Names as text -/

def kindName (world : World) (id : Id .kind) : String :=
  untokenize (world.kind id).singular

def kindPlural (world : World) (id : Id .kind) : String :=
  untokenize (world.kind id).plural

def adjectiveName (world : World) (id : Id .adjective) : String :=
  untokenize (world.adjective id).name

def verbName (world : World) (id : Id .verb) : String :=
  untokenize (world.verb id).base

def qualityName (world : World) : Quality → String
  | .kind id => world.kindName id
  | .adjective id => world.adjectiveName id

def traitName (world : World) (trait : Trait) : String :=
  let name := world.qualityName trait.quality
  if trait.positive then name else "not " ++ name

end World

end Worldsmith
