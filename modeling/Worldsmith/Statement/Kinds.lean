import Worldsmith.Statement.Basic

/-!
# Statements about kinds and individuals
-/

namespace Worldsmith

namespace Statement

/-- Several kinds are kinds of another. -/
def subkinds (s : Statement) : Edit Unit := do
  let parent ← s.kindAt 0
  (← s.reading.nouns 0).items.forM fun phrase => do
    Edit.declareSuperkind (← s.kind phrase) parent

/-- One kind is a kind of another. -/
def subkind (s : Statement) : Edit Unit := do
  let sub ← s.kindAt 0
  let parent ← s.kindAt 1
  Edit.declareSuperkind sub parent

/-- A kind has an irregular plural or singular. -/
def kindForm (s : Statement) (number : GrammaticalNumber) : Edit Unit := do
  let kind ← s.kindAt 0
  Edit.setKindForm kind (← s.reading.text 0) number

/-- Members of a kind are described, or named, by a template. -/
def template (s : Statement) (set : Template → Kind → Kind) : Edit Unit := do
  let kind ← s.kindAt 0
  let template ← Edit.grammatical (Template.compile (← s.reading.text 0))
  modify fun world => world.modifyKind kind (set template)

/-- An individual is of a kind, besides those it is said to be of already. -/
def membership (s : Statement) : Edit Unit := do
  let individual ← s.individual (← s.reading.noun 0)
  let phrase ← s.reading.noun 1
  let kind ← s.kind phrase
  let modifiers ← s.modifiers phrase
  modify fun world =>
    (world.makeTraitsRelevant kind modifiers).classify individual kind modifiers

/-- An individual has adjectives. Whatever was said to the contrary is forgotten. -/
def attributes (s : Statement) : Edit Unit := do
  let individual ← s.individual (← s.reading.noun 0)
  let traits ← s.traits (← s.reading.adjectives 0)
  modify fun world =>
    let kinds := (world.individual individual).kinds
    (kinds.foldl (fun world kind => world.makeTraitsRelevant kind traits) world).characterize
      individual traits

/-- Something of the sort can exist, or cannot. -/
def expectation (s : Statement) (shouldExist : Bool) : Edit Unit := do
  let phrase ← s.reading.noun 0
  let kind ← s.kind phrase
  let modifiers ← s.modifiers phrase
  modify (·.addExpectation ⟨kind, modifiers, shouldExist, s.line⟩)

end Statement

end Worldsmith
