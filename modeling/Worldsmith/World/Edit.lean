import Worldsmith.Language.Inflection
import Worldsmith.World.Hierarchy

/-!
# Changing a world

An edit changes a world and may fail. A failed edit can leave some of its names in the lexicon;
whoever needs the world as it was keeps it.
-/

namespace Worldsmith

/-- A change to a world that may fail. -/
abbrev Edit := ExceptT Error (StateM World)

namespace Edit

/-- Make an edit, and give the world after it. -/
def perform {α : Type} (edit : Edit α) (world : World) : Except Error α × World :=
  StateT.run (ExceptT.run edit) world

/-- Refuse with a contradiction. -/
def contradict {α : Type} (contradiction : Contradiction) : Edit α :=
  throw (.contradiction contradiction)

/-- Use the result of an inflection. -/
def grammatical {α : Type} (result : Except GrammarError α) : Edit α :=
  match result with
  | .ok a => pure a
  | .error error => throw (.grammar error)

/-! ## Names -/

/-- Bind a name to a concept. It may have been bound to another concept of the same sort. -/
def register (name : Name) (concept : Concept) (form : WordForm) : Edit Unit := do
  match (← get).find? name with
  | some entry =>
    if !entry.value.sameSort concept then
      contradict (.nameClash (untokenize name) entry.value)
  | none => pure ()
  modify fun world => { world with lexicon := world.lexicon.store (some ⟨concept, form⟩) name }

/-- Bind a name, or free it, without asking what it was bound to. -/
def bind (name : Name) (entry : Option (Entry Concept)) : Edit Unit :=
  modify fun world => { world with lexicon := world.lexicon.store entry name }

/-! ## New things -/

/-- Both numbers of a kind's name, of which one may be missing. -/
def bothForms : Option Name → Option Name → Edit (Name × Name)
  | some singular, some plural => pure (singular, plural)
  | some singular, none => do return (singular, ← grammatical singular.plural)
  | none, some plural => do return (← grammatical plural.singular, plural)
  | none, none => throw (.misuse .namelessKind)

/-- Create a kind from one or both numbers of its name. -/
def addKind (singular plural : Option Name) : Edit (Id .kind) := do
  let (singular, plural) ← bothForms singular plural
  let id : Id .kind := ⟨(← get).kinds.size⟩
  if singular.same plural then
    register singular (.kind id) .either
  else
    register singular (.kind id) .singular
    register plural (.kind id) .plural
  modify fun world => { world with kinds := world.kinds.push (.named singular plural) }
  return id

/-- Give a kind another plural or singular. The old form is freed. -/
def setKindForm (id : Id .kind) (name : Name) (number : GrammaticalNumber) : Edit Unit := do
  let kind := (← get).kind id
  let (old, other, form, otherForm) : Name × Name × WordForm × WordForm := match number with
    | .plural => (kind.plural, kind.singular, .plural, .singular)
    | .singular => (kind.singular, kind.plural, .singular, .plural)
  bind old none
  if name.same other then
    register name (.kind id) .either
  else
    bind other (some ⟨.kind id, otherForm⟩)
    register name (.kind id) form
  modify fun world => world.modifyKind id fun kind =>
    match number with
    | .plural => { kind with plural := name }
    | .singular => { kind with singular := name }

def addAdjective (name : Name) : Edit (Id .adjective) := do
  let id : Id .adjective := ⟨(← get).adjectives.size⟩
  register name (.adjective id) .either
  modify fun world => { world with adjectives := world.adjectives.push ⟨name, false, []⟩ }
  return id

/-- The third person of a verb, whose first word takes the ending: "plays with". -/
def thirdPerson : Name → Except GrammarError Name
  | [] => .ok []
  | first :: rest => do return { first with text := ← Inflection.plural first.text } :: rest

/-- Create a verb from its base form. -/
def addVerb (base : Name) : Edit (Id .verb) := do
  let thirdPerson ← grammatical (thirdPerson base)
  let id : Id .verb := ⟨(← get).verbs.size⟩
  register base (.verb id) .plural
  register thirdPerson (.verb id) .singular
  register base.gerund (.verb id) .gerund
  modify fun world =>
    { world with verbs := world.verbs.push (.named base thirdPerson base.gerund) }
  return id

def addIndividual (name : Name) : Edit (Id .individual) := do
  let id : Id .individual := ⟨(← get).individuals.size⟩
  register name (.individual id) .singular
  modify fun world => { world with individuals := world.individuals.push ⟨name, [], [], []⟩ }
  return id

end Edit

namespace World

/-- Give members of a kind a property. If there is one of that name already, its values are
changed. -/
def addProperty (world : World) (owner : Id .kind) (name : Name) (domain : PropertyDomain) :
    Id .property × World :=
  match world.findProperty? owner name with
  | some id => (id, world.modifyProperty id fun property => { property with domain := domain })
  | none =>
    let id : Id .property := ⟨world.properties.size⟩
    let world := { world with properties := world.properties.push ⟨name, owner, domain⟩ }
    (id, world.modifyKind owner fun kind => { kind with properties := kind.properties ++ [id] })

/-- Give members of a kind a part. -/
def addPart (world : World) (owner : Id .kind) (name : Name) (kind : Id .kind)
    (modifiers : List Trait) : Id .part × World :=
  let id : Id .part := ⟨world.parts.size⟩
  let world := { world with parts := world.parts.push ⟨name, owner, kind, modifiers⟩ }
  (id, world.modifyKind owner fun kind => { kind with parts := kind.parts ++ [id] })

def addExpectation (world : World) (expectation : Expectation) : World :=
  { world with expectations := world.expectations.push expectation }

/-! ## Adjectives -/

/-- Put something at the end of a list unless it is there. -/
def adjoin {α : Type} [BEq α] (a : α) (list : List α) : List α :=
  if list.contains a then list else list ++ [a]

/-- Put things at the end of a list unless they are there. -/
def adjoinAll {α : Type} [BEq α] (added list : List α) : List α :=
  added.foldl (fun list a => adjoin a list) list

/-- Say that members of a kind may have an adjective. -/
def makeRelevant (world : World) (kind : Id .kind) (adjective : Id .adjective) : World :=
  (world.modifyKind kind fun k => { k with adjectives := adjoin adjective k.adjectives })
    |>.modifyAdjective adjective fun a => { a with relevantTo := adjoin kind a.relevantTo }

/-- Say that members of a kind may have the adjectives that traits mention, where that is not
known yet. -/
def makeTraitsRelevant (world : World) (kind : Id .kind) (traits : List Trait) : World :=
  traits.foldl (fun world trait =>
    match trait.quality with
    | .adjective adjective =>
      if world.isRelevant adjective kind then world else world.makeRelevant kind adjective
    | .kind _ => world) world

/-! ## Individuals -/

/-- Say that an individual is of a kind and has some traits. Of its kinds the most specific are
kept. -/
def classify (world : World) (id : Id .individual) (kind : Id .kind) (traits : List Trait) :
    World :=
  let kinds := world.mostSpecific ((world.individual id).kinds ++ [kind])
  world.modifyIndividual id fun individual =>
    { individual with kinds := kinds, modifiers := adjoinAll traits individual.modifiers }

/-- Put a trait at the end of a list and take its opposite out. -/
def assume (traits : List Trait) (trait : Trait) : List Trait :=
  adjoin trait (traits.filter (· != trait.negate))

/-- Say that an individual has some traits, whatever was said before. -/
def characterize (world : World) (id : Id .individual) (traits : List Trait) : World :=
  world.modifyIndividual id fun individual =>
    { individual with modifiers := traits.foldl assume individual.modifiers }

/-! ## Verbs -/

def addGeneralization (world : World) (verb general : Id .verb) : World :=
  world.modifyVerb verb fun v => { v with generalizations := adjoin general v.generalizations }

/-- Say that a verb is a way of another. -/
def addWayOf (world : World) (specific general : Id .verb) : World :=
  if (world.verb specific).superspecies.contains general then world
  else
    (world.modifyVerb specific fun v => { v with superspecies := v.superspecies ++ [general] })
      |>.modifyVerb general fun v => { v with subspecies := v.subspecies ++ [specific] }

/-- Say that two verbs never hold between the same individuals. -/
def addExclusion (world : World) (a b : Id .verb) : World :=
  (world.modifyVerb a fun v => { v with exclusions := adjoin b v.exclusions })
    |>.modifyVerb b fun v => { v with exclusions := adjoin a v.exclusions }

end World

namespace Edit

/-- Say that a kind is just below another, unless it is at or above it. -/
def declareSuperkind (sub parent : Id .kind) : Edit Unit := do
  let world ← get
  if world.isA parent sub then
    contradict (.cyclicKinds (world.kindName sub) (world.kindName parent))
  else if !(world.kind sub).superkinds.contains parent then
    set ((world.modifyKind sub fun k => { k with superkinds := k.superkinds ++ [parent] })
      |>.modifyKind parent fun k => { k with subkinds := k.subkinds ++ [sub] })

/-- The kind that a verb's subject or object has to be of once it can also be of another kind. -/
def widen (verb : Id .verb) (existing : Option (Id .kind)) (proposed : Id .kind) :
    Edit (Id .kind) := do
  match existing with
  | none => return proposed
  | some existing =>
    let world ← get
    match world.leastUpperBound? existing proposed with
    | some kind => return kind
    | none =>
      contradict (.incompatibleSignature (world.verbName verb) (world.kindName existing)
        (world.kindName proposed))

/-- Say which kinds a verb relates, in addition to those it relates already. -/
def declareSignature (verb : Id .verb) (subject object : Id .kind) : Edit Unit := do
  let known := (← get).verb verb
  let subject ← widen verb known.subjectKind subject
  let object ← widen verb known.objectKind object
  modify fun world => world.modifyVerb verb fun v =>
    { v with subjectKind := some subject, objectKind := some object }

end Edit

end Worldsmith
