import Worldsmith.Sentence.Matching
import Worldsmith.World.Edit

/-!
# Statements

A statement is a reading that is being carried out. Its coinages become concepts first, in the
order in which they were coined; then its phrases stand for concepts and traits, or are objected
to.
-/

namespace Worldsmith

/-- Create the concept that a coinage announces. -/
def Coinage.create : Coinage → Edit Concept
  | .kind singular plural => return .kind (← Edit.addKind (some singular) (some plural))
  | .adjective name => return .adjective (← Edit.addAdjective name)
  | .verb base => return .verb (← Edit.addVerb base)
  | .individual name => return .individual (← Edit.addIndividual name)

structure Statement where
  /-- The statement as typed. -/
  line : String
  reading : Reading
  /-- What the coinages became. -/
  coined : List Concept
  /-- The values that a menu offers. -/
  menu : String → Except ResourceError (List String)

namespace Statement

/-- Object to a statement. -/
def objection {α : Type} (s : Statement) (objection : Objection) : Except Error α :=
  .error (.grammar (.rejected s.line objection))

/-- What a mention stands for. -/
def concept (s : Statement) : Mention → Except Error Concept
  | .known concept => .ok concept
  | .coined index =>
    match s.coined[index]? with
    | some concept => .ok concept
    | none => .error (.misuse (.missingCoinage index))

/-- The kind that a noun phrase is about. -/
def kind (s : Statement) (phrase : NounPhrase) : Except Error (Id .kind) := do
  match ← s.concept phrase.head with
  | .kind id => return id
  | found => s.objection (.notKind (untokenize phrase.text) found)

/-- The individual that a noun phrase is about. -/
def individual (s : Statement) (phrase : NounPhrase) : Except Error (Id .individual) := do
  match ← s.concept phrase.head with
  | .individual id => return id
  | found => s.objection (.notProper (untokenize phrase.text) found)

def verbOf (s : Statement) (mention : Mention) : Except Error (Id .verb) := do
  match ← s.concept mention with
  | .verb id => return id
  | found => s.objection (.notVerb found)

/-- The trait that a modifier states. -/
def trait (s : Statement) (modifier : Modifier) : Except Error Trait := do
  let concept ← s.concept modifier.mention
  match concept.quality? with
  | some quality => return ⟨quality, modifier.positive⟩
  | none => s.objection (.notModifier concept)

/-- The traits in front of a noun. -/
def modifiers (s : Statement) (phrase : NounPhrase) : Except Error (List Trait) :=
  phrase.modifiers.mapM s.trait

/-- The traits in a series. -/
def traits (s : Statement) (series : Series Modifier) : Except Error (List Trait) :=
  series.items.mapM s.trait

/-! ## Constituents and what they stand for -/

/-- The kind that a noun phrase of the sentence is about. -/
def kindAt (s : Statement) (n : Nat) : Except Error (Id .kind) := do
  s.kind (← s.reading.noun n)

/-- The verb in a slot of the sentence. -/
def verbAt (s : Statement) (n : Nat) : Except Error (Id .verb) := do
  s.verbOf (← s.reading.verb n)

/-- Check that a lower bound is not above an upper one. -/
def checkBounds (s : Statement) (low high : Nat) : Except Error Unit :=
  if high < low then s.objection .crossedBounds else .ok ()

end Statement

end Worldsmith
