/-!
# What sentences ask for

A sentence either declares something of the world or commands the session.
-/

namespace Worldsmith

inductive Command where
  | imagine
  | undo
  | startOver
  | save
  | test
  | restate
  | stats
  | help
  deriving DecidableEq, Repr

inductive Declaration where
  /-- Several kinds are kinds of another. -/
  | subkinds
  /-- One kind is a kind of another. -/
  | subkind
  | pluralForm
  | singularForm
  /-- An individual is of a kind. -/
  | membership
  /-- How members of a kind are described. -/
  | description
  /-- How members of a kind are named. -/
  | naming
  /-- An adjective is never mentioned. -/
  | silence
  /-- Adjectives of an individual. -/
  | attributes
  /-- A number of alternatives between two bounds hold. -/
  | choiceBetween
  /-- At most some number of alternatives hold. -/
  | choiceUpTo
  /-- Adjectives that members of a kind may have. -/
  | possibility
  /-- Adjectives that members of a kind do have. -/
  | generality
  | wayOf
  | frequency
  | implication
  | exclusion
  | symmetry
  | antisymmetry
  | irreflexivity
  | reflexivity
  | relateExactlyOne
  | relateUpTo
  | relateAtLeast
  | relateBetween
  | relate
  | range
  | menu
  | part
  | freeText
  /-- The value of an individual's property, or the values a kind allows. -/
  | propertyValue
  | shouldExist
  | shouldNotExist
  deriving DecidableEq, Repr

inductive Action where
  | declare (declaration : Declaration)
  | command (command : Command)
  deriving DecidableEq, Repr

end Worldsmith
