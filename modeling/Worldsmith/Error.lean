import Worldsmith.World.Concept
import Worldsmith.Text.Quoted

/-!
# What can go wrong

Errors are causes; `message` puts each into words.
-/

namespace Worldsmith

/-- The form of a word that was asked for. -/
inductive Inflected where
  | plural
  | singular
  /-- Whatever form a name without words was to take. -/
  | any
  deriving DecidableEq, Repr

def Inflected.describe : Inflected → String
  | .plural => "plural"
  | .singular => "singular"
  | .any => "inflected"

/-- Why a sentence that was understood is refused all the same. -/
inductive Objection where
  /-- A noun phrase stands for something else than a kind. -/
  | notKind (phrase : String) (found : Concept)
  /-- A noun phrase stands for something else than an individual. -/
  | notProper (phrase : String) (found : Concept)
  | notVerb (found : Concept)
  | notModifier (found : Concept)
  | notSilenceable
  | crossedBounds
  | conditionalAlternatives
  | ownSpecies
  | unknownFrequency (phrase : String)
  | ownExclusion
  | emptyMenu (source : String)
  | partExists
  | noProperties
  | unterminatedSlot
  | commandInFile (path : String)
  | unknownWords (phrase : String)
  | tooMany (limit : Nat)
  deriving DecidableEq, Repr

def Objection.message : Objection → String
  | .notKind phrase found => s!"\"{phrase}\" is a {found.describe}, not a kind"
  | .notProper phrase found => s!"\"{phrase}\" is a {found.describe}, not a proper noun"
  | .notVerb found => s!"expected a verb, found a {found.describe}"
  | .notModifier found => s!"a {found.describe} can't be used as a modifier"
  | .notSilenceable => "only an adjective can be silent"
  | .crossedBounds => "the lower bound is above the upper bound"
  | .conditionalAlternatives => "alternatives can't depend on modifiers"
  | .ownSpecies => "a verb can't be a way of itself"
  | .unknownFrequency phrase => s!"unknown frequency \"{phrase}\""
  | .ownExclusion => "a verb can't exclude itself"
  | .emptyMenu source => s!"the menu \"{source}\" is empty"
  | .partExists => "that part already exists"
  | .noProperties => "only kinds and proper nouns have properties"
  | .unterminatedSlot => "unterminated [slot] in template"
  | .commandInFile path => s!"commands aren't allowed in {path}"
  | .unknownWords phrase => s!"I don't know what \"{phrase}\" means"
  | .tooMany limit => s!"I can only imagine up to {limit} things at once"

/-- Input that is not understood, or understood and refused. -/
inductive GrammarError where
  | unknownCharacter (character : Char) (input : String)
  | noMatch (input : String) (suggestions : List String)
  | noInflection (word : String) (form : Inflected)
  | rejected (input : String) (objection : Objection)
  deriving DecidableEq, Repr

def GrammarError.message : GrammarError → String
  | .unknownCharacter character input =>
    s!"unknown character {Text.quoteChar character} in \"{input}\""
  | .noMatch input suggestions =>
    let similar :=
      if suggestions.isEmpty then ""
      else "; similar sentences: " ++ " | ".intercalate suggestions
    s!"I don't understand \"{input}\"{similar}"
  | .noInflection word form => s!"can't work out the {form.describe} form of \"{word}\""
  | .rejected input objection => s!"\"{input}\": {objection.message}"

/-- A statement at odds with what the world already says. -/
inductive Contradiction where
  | cyclicKinds (sub parent : String)
  | incompatibleSignature (verb existing proposed : String)
  | nameClash (name : String) (existing : Concept)
  | propertyValue (owner property value : String)
  | alreadySymmetric (verb : String)
  | alreadyReflexive (verb : String)
  | alreadyAntiReflexive (verb : String)
  deriving DecidableEq, Repr

def Contradiction.message : Contradiction → String
  | .cyclicKinds sub parent =>
    s!"{sub} can't be a kind of {parent}: {parent} is already a kind of {sub}"
  | .incompatibleSignature verb existing proposed =>
    s!"{verb} relates {existing}, which has nothing in common with {proposed}"
  | .nameClash name existing => s!"\"{name}\" is already used for a {existing.describe}"
  | .propertyValue owner property value =>
    s!"{owner}'s {property} isn't a property that can take \"{value}\""
  | .alreadySymmetric verb => s!"{verb} is already symmetric"
  | .alreadyReflexive verb => s!"{verb} is already reflexive"
  | .alreadyAntiReflexive verb => s!"{verb} is already anti-reflexive"

/-- A file that cannot be had. -/
inductive ResourceError where
  | notFound (path : String)
  | unreadable (path : String)
  deriving DecidableEq, Repr

def ResourceError.message : ResourceError → String
  | .notFound path => s!"file not found: {path}"
  | .unreadable path => s!"can't read {path}"

/-- Why a search ended without a solution. -/
inductive SearchFailure where
  | contradiction
  | timeout (steps : Nat)
  deriving DecidableEq, Repr

def SearchFailure.message : SearchFailure → String
  | .contradiction => "contradiction: no assignment satisfies the problem"
  | .timeout steps => s!"search gave up after {steps} steps"

/-- A request that cannot be carried out at all. -/
inductive Misuse where
  | nothingImagined
  | namelessKind
  | missingConstituent (sort : String) (index : Nat)
  | missingCoinage (index : Nat)
  deriving DecidableEq, Repr

def Misuse.message : Misuse → String
  | .nothingImagined => "imagine something first"
  | .namelessKind => "a kind needs a name"
  | .missingConstituent sort index => s!"sentence has no {sort} #{index}"
  | .missingCoinage index => s!"no pending concept #{index}"

/-- Everything that can go wrong. -/
inductive Error where
  | grammar (error : GrammarError)
  | contradiction (error : Contradiction)
  | resource (error : ResourceError)
  | noExample (failure : SearchFailure)
  | misuse (error : Misuse)
  deriving DecidableEq, Repr

def Error.message : Error → String
  | .grammar error => error.message
  | .contradiction error => s!"contradiction: {error.message}"
  | .resource error => error.message
  | .noExample failure => s!"no example found ({failure.message})"
  | .misuse error => error.message

end Worldsmith
