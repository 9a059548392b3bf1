import Worldsmith.Statement.Adjectives
import Worldsmith.Statement.Kinds
import Worldsmith.Statement.Properties
import Worldsmith.Statement.Verbs

/-!
# Carrying out statements

What each declaration does to the world.
-/

namespace Worldsmith

namespace Statement

/-- Make the changes that a declaration asks for. -/
def declare (s : Statement) : Declaration → Edit Unit
  | .subkinds => s.subkinds
  | .subkind => s.subkind
  | .pluralForm => s.kindForm .plural
  | .singularForm => s.kindForm .singular
  | .membership => s.membership
  | .description => s.template fun t kind => { kind with descriptionTemplate := some t }
  | .naming => s.template fun t kind => { kind with nameTemplate := some t }
  | .silence => s.silence
  | .attributes => s.attributes
  | .choiceBetween => s.choiceBetween
  | .choiceUpTo => s.choiceUpTo
  | .possibility => s.possibility
  | .generality => s.generality
  | .wayOf => s.wayOf
  | .frequency => s.frequency
  | .implication => s.implication
  | .exclusion => s.exclusion
  | .symmetry => s.symmetry
  | .antisymmetry => s.antisymmetry
  | .irreflexivity => s.irreflexivity
  | .reflexivity => s.reflexivity
  | .relateExactlyOne => s.relateExactlyOne
  | .relateUpTo => s.relateUpTo
  | .relateAtLeast => s.relateAtLeast
  | .relateBetween => s.relateBetween
  | .relate => s.relate
  | .range => s.range
  | .menu => s.menuProperty
  | .part => s.part
  | .freeText => s.freeText
  | .propertyValue => s.propertyValue
  | .shouldExist => s.expectation true
  | .shouldNotExist => s.expectation false

end Statement

/-- The kinds among some concepts. -/
def Concept.kinds (concepts : List Concept) : List (Id .kind) :=
  concepts.filterMap fun concept =>
    match concept with
    | .kind id => some id
    | _ => none

/-- Carry out what a sentence declares, and give the kinds that it has made. -/
def Reading.perform (reading : Reading) (line : String)
    (menu : String → Except ResourceError (List String)) (declaration : Declaration) :
    Edit (List (Id .kind)) := do
  let coined ← reading.coinages.mapM Coinage.create
  Statement.declare ⟨line, reading, coined, menu⟩ declaration
  return Concept.kinds coined

end Worldsmith
