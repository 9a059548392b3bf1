import Worldsmith.Language.Inflection
import Worldsmith.World.Concept

/-!
# Phrases

What a sentence says, piece by piece. A phrase may mention a concept that does not exist yet: such
a mention points into the list of coinages, which become concepts when the sentence is carried
out.
-/

namespace Worldsmith

/-- A concept named by a phrase: one that exists, or one of the sentence's coinages. -/
inductive Mention where
  | known (concept : Concept)
  | coined (index : Nat)
  deriving DecidableEq, Repr

/-- A concept to create once its sentence is accepted. -/
inductive Coinage where
  | kind (singular plural : Name)
  | adjective (name : Name)
  | verb (base : Name)
  | individual (name : Name)
  deriving DecidableEq, Repr

namespace Coinage

/-- The names that a coinage claims. -/
def names : Coinage → List Name
  | kind singular plural => [singular, plural]
  | adjective name => [name]
  | verb base => [base]
  | individual name => [name]

/-- Whether a name is one that the coinage claims. -/
def isNamed (coinage : Coinage) (name : Name) : Bool :=
  coinage.names.any (Name.same · name)

/-- Whether two coinages are the same except for case. -/
def same : Coinage → Coinage → Bool
  | kind s p, kind s' p' => Name.same s s' && Name.same p p'
  | adjective name, adjective name' => Name.same name name'
  | verb base, verb base' => Name.same base base'
  | individual name, individual name' => Name.same name name'
  | _, _ => false

def isKind : Coinage → Bool
  | kind .. => true
  | _ => false

def isAdjective : Coinage → Bool
  | adjective _ => true
  | _ => false

def isVerb : Coinage → Bool
  | verb _ => true
  | _ => false

def isIndividual : Coinage → Bool
  | individual _ => true
  | _ => false

end Coinage

inductive Conjunction where
  | and
  | or
  deriving DecidableEq, Repr

/-- A quality mentioned in front of a noun or after "is", possibly denied. -/
structure Modifier where
  mention : Mention
  positive : Bool
  deriving DecidableEq, Repr

structure NounPhrase where
  /-- A kind, or an individual if the noun is proper. -/
  head : Mention
  modifiers : List Modifier
  /-- Unknown if the head has one form for both numbers and nothing else settles it. -/
  number : Option GrammaticalNumber
  /-- The count that an article or numeral gives. -/
  count : Option Nat
  /-- The tokens the phrase was read from. -/
  text : List Token
  deriving DecidableEq, Repr

/-- Whether a phrase can be in a number. An unknown number agrees with both. -/
def NounPhrase.agrees (phrase : NounPhrase) (number : GrammaticalNumber) : Bool :=
  phrase.number.all (· == number)

/-- Things joined by commas and a conjunction. A single thing has no conjunction. -/
structure Series (α : Type) where
  items : List α
  conjunction : Option Conjunction
  deriving DecidableEq, Repr

/-- What one slot of a sentence was filled with. -/
inductive Constituent where
  | noun (phrase : NounPhrase)
  | nouns (series : Series NounPhrase)
  | adjective (modifier : Modifier)
  | adjectives (series : Series Modifier)
  | verb (mention : Mention)
  | count (value : Nat)
  | text (tokens : List Token)
  /-- One of the fixed phrases that a slot offers. -/
  | choice (phrase : String)
  deriving DecidableEq, Repr

namespace Constituent

def noun? : Constituent → Option NounPhrase
  | noun phrase => some phrase
  | _ => none

def nouns? : Constituent → Option (Series NounPhrase)
  | nouns series => some series
  | _ => none

def adjective? : Constituent → Option Modifier
  | adjective modifier => some modifier
  | _ => none

def adjectives? : Constituent → Option (Series Modifier)
  | adjectives series => some series
  | _ => none

def verb? : Constituent → Option Mention
  | verb mention => some mention
  | _ => none

def count? : Constituent → Option Nat
  | count value => some value
  | _ => none

def text? : Constituent → Option (List Token)
  | text tokens => some tokens
  | _ => none

def choice? : Constituent → Option String
  | choice phrase => some phrase
  | _ => none

end Constituent

end Worldsmith
