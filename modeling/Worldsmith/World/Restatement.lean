import Worldsmith.Decimal.Shortest
import Worldsmith.Language.Inflection
import Worldsmith.World.Basic

/-!
# Restating a world

A world as sentences that say what it holds. Said in order to an empty world they make it anew.
The sentences are grouped by what they are about, not by when they were first said.
-/

namespace Worldsmith

/-- The article before a word. -/
def article (word : String) : String :=
  match word.toList with
  | c :: _ => if "aeiouAEIOU".toList.contains c then "an" else "a"
  | [] => "a"

namespace World

/-- Traits in front of a noun: "fuzzy not big cats". -/
def phrase (world : World) (modifiers : List Trait) (noun : String) : String :=
  " ".intercalate (modifiers.map world.traitName ++ [noun])

/-! ## Kinds -/

/-- The plural of a kind, unless it is the regular one. -/
def restatePlural (world : World) (id : Id .kind) : List String :=
  let kind := world.kind id
  let regular := kind.singular.plural.toOption.map untokenize
  let plural := untokenize kind.plural
  if regular == some plural then []
  else ["the plural of " ++ untokenize kind.singular ++ " is " ++ plural]

/-- The kinds just above a kind. -/
def restateSuperkinds (world : World) (id : Id .kind) : List String :=
  (world.kind id).superkinds.map fun parent =>
    world.kindPlural id ++ " are kinds of " ++ world.kindPlural parent

/-- Adjectives that are relevant to a kind and not among its alternatives. -/
def restatePossibilities (world : World) (kind : Kind) (noun : String) : List String :=
  let alternatives := kind.alternativeSets.flatMap AlternativeSet.alternatives
  kind.adjectives.filterMap fun adjective =>
    if alternatives.any (·.quality == .adjective adjective) then none
    else some (noun ++ " can be " ++ world.adjectiveName adjective)

def restateAlternatives (world : World) (noun : String) (set : AlternativeSet) : String :=
  let names := set.alternatives.map world.traitName
  if set.low = 0 && set.high = 1 then noun ++ " can be " ++ " or ".intercalate names
  else if set.low = 1 && set.high = 1 then noun ++ " are " ++ " or ".intercalate names
  else if set.low = 0 then
    noun ++ " can be up to " ++ set.high.repr ++ " of " ++ ", ".intercalate names
  else
    noun ++ " are between " ++ set.low.repr ++ " and " ++ set.high.repr ++ " of " ++
      ", ".intercalate names

def restateImplication (world : World) (noun : String) (implication : Implication) : String :=
  world.phrase implication.conditions noun ++ " are " ++ world.traitName implication.consequent

def restateRestriction (world : World) (noun name : String) (restriction : MenuRestriction) :
    String :=
  let (memberships, modifiers) := restriction.conditions.partition Trait.isMembership
  let subject := match memberships.map Trait.quality with
    | .kind kind :: _ => world.kindPlural kind
    | _ => noun
  world.phrase modifiers subject ++ "' " ++ name ++ " is " ++ " or ".intercalate restriction.values

def restateProperty (world : World) (noun : String) (id : Id .property) : List String :=
  let property := world.property id
  let name := untokenize property.name
  let has := noun ++ " have " ++ article name ++ " " ++ name
  match property.domain with
  | .range low high => [has ++ " between " ++ shortestText low ++ " and " ++ shortestText high]
  | .menu source _ restrictions =>
    (has ++ " from " ++ source) :: restrictions.map (world.restateRestriction noun name)
  | .text => [has]

def restatePart (world : World) (noun : String) (id : Id .part) : String :=
  let part := world.part id
  let described := world.phrase part.modifiers (world.kindName part.kind)
  noun ++ " have " ++ article described ++ " " ++ described ++ " called their " ++
    untokenize part.name

def restateTemplate (noun verb : String) : Option Template → List String
  | none => []
  | some template => [noun ++ " are " ++ verb ++ " \"" ++ template.source ++ "\""]

def restateKind (world : World) (id : Id .kind) : List String :=
  let kind := world.kind id
  let noun := world.kindPlural id
  world.restatePossibilities kind noun ++
    kind.alternativeSets.map (world.restateAlternatives noun) ++
    kind.implications.map (world.restateImplication noun) ++
    kind.properties.flatMap (world.restateProperty noun) ++
    kind.parts.map (world.restatePart noun) ++
    restateTemplate noun "named" kind.nameTemplate ++
    restateTemplate noun "described as" kind.descriptionTemplate

/-! ## Verbs -/

/-- A verb's bounds, with the object in the singular or plural as its number needs. -/
def restateBounds (verb : Verb) (subject base object objects : String) : List String :=
  let can := subject ++ " can " ++ base ++ " "
  let must := subject ++ " must " ++ base ++ " "
  match verb.lowerBound, verb.upperBound with
  | none, none => if verb.symmetric then [] else [can ++ objects]
  | some 1, none => [must ++ objects]
  | some 1, some 1 => [must ++ "exactly one " ++ object]
  | none, some 1 => [can ++ "one " ++ object]
  | some 0, some 1 => [can ++ "one " ++ object]
  | none, some high => [can ++ "up to " ++ high.repr ++ " " ++ objects]
  | some 0, some high => [can ++ "up to " ++ high.repr ++ " " ++ objects]
  | some 0, none => [can ++ objects]
  | some 1, some high => [must ++ "up to " ++ high.repr ++ " " ++ objects]
  | some low, none => [must ++ "at least " ++ low.repr ++ " " ++ objects]
  | some low, some high =>
    [must ++ "between " ++ low.repr ++ " and " ++ high.repr ++ " " ++ objects]

/-- What a verb relates, and how. -/
def restateSignature (world : World) (verb : Verb) : List String :=
  match verb.subjectKind, verb.objectKind with
  | some subjectKind, some objectKind =>
    let base := untokenize verb.base
    let subject := world.phrase verb.subjectModifiers (world.kindPlural subjectKind)
    let objects := world.phrase verb.objectModifiers (world.kindPlural objectKind)
    let object := world.phrase verb.objectModifiers (world.kindName objectKind)
    let law (holds : Bool) (modal ending : String) : List String :=
      if holds then [subject ++ " " ++ modal ++ " " ++ base ++ " " ++ ending] else []
    law verb.symmetric "can" "each other" ++
      restateBounds verb subject base object objects ++
      law verb.antiSymmetric "cannot" "each other" ++
      law verb.antiReflexive "cannot" "themselves" ++
      law verb.reflexive "must" "themselves"
  | _, _ => []

/-- The least difference between densities that counts. -/
def densityTolerance : Float := 1.0 / 4503599627370496.0

def restateVerb (world : World) (id : Id .verb) : List String :=
  let verb := world.verb id
  let gerund := untokenize verb.gerund
  let other (id : Id .verb) : String := untokenize (world.verb id).gerund
  let frequency := Verb.densityWords.find? fun (_, density) =>
    (verb.density - density).abs < densityTolerance
  world.restateSignature verb ++
    frequency.toList.map (fun (word, _) => gerund ++ " is " ++ word) ++
    verb.generalizations.map (fun general => gerund ++ " implies " ++ other general) ++
    verb.superspecies.map (fun general => gerund ++ " is a way of " ++ other general) ++
    (verb.exclusions.filter fun excluded => id.index < excluded.index).map fun excluded =>
      gerund ++ " and " ++ other excluded ++ " are mutually exclusive"

/-! ## Everything -/

def restateIndividual (world : World) (individual : Individual) : List String :=
  let name := untokenize individual.name
  individual.kinds.map (fun kind =>
    let singular := world.kindName kind
    name ++ " is " ++ article singular ++ " " ++ singular) ++
    individual.modifiers.map (fun trait => name ++ " is " ++ world.traitName trait) ++
    individual.properties.map fun (property, value) =>
      name ++ "'s " ++ untokenize (world.property property).name ++ " is " ++ value

/-- All sentences that make a world. -/
def restate (world : World) : List String :=
  world.kindIds.flatMap world.restatePlural ++
    world.kindIds.flatMap world.restateSuperkinds ++
    world.kindIds.flatMap world.restateKind ++
    (world.adjectives.toList.filter Adjective.silent).map (fun adjective =>
      untokenize adjective.name ++ " is silent") ++
    world.verbIds.flatMap world.restateVerb ++
    world.individuals.toList.flatMap world.restateIndividual ++
    world.expectations.toList.map Expectation.text

end World

end Worldsmith
