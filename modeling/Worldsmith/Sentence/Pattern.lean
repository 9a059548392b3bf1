import Worldsmith.Sentence.Slot
import Worldsmith.Sentence.Action
import Worldsmith.Language.Scan

/-!
# Sentence patterns

A pattern is written as a sentence in which words in capitals stand for slots. Requirements on
what the slots were filled with follow the last element.
-/

namespace Worldsmith

/-- A demand on the constituents found so far. Indices count constituents of one sort. -/
inductive Requirement where
  /-- A noun phrase is singular. -/
  | singular (index : Nat)
  /-- A noun phrase is plural. -/
  | plural (index : Nat)
  /-- A noun phrase names a kind. -/
  | common (index : Nat)
  /-- A noun phrase has no modifiers. -/
  | unmodified (index : Nat)
  /-- A series of adjectives is not joined by "or". -/
  | notAlternatives (index : Nat)
  deriving DecidableEq, Repr

inductive Element where
  | word (key : String)
  | slot (slot : Slot)
  | requirement (requirement : Requirement)
  deriving DecidableEq, Repr

/-- A sentence that can be said, and what it asks for. -/
structure Pattern where
  source : String
  elements : List Element
  action : Action
  deriving Repr

namespace Element

/-- The element that a token of a pattern stands for. -/
def ofToken (token : Token) : Element :=
  if token.kind = .word && token.text.toList.all Char.isUpper then
    .slot (.ofPlaceholder token.text)
  else .word token.key

/-- Read a pattern as it is written. -/
def ofSource (source : String) : List Element :=
  match tokenize source with
  | .ok tokens => tokens.map ofToken
  | .error _ => (Name.ofText source).map ofToken

/-- Whether a token can stand where a pattern has a word. Where it has "a", so can "an". -/
def wordMatches (token : Token) (word : String) : Bool :=
  token.kind != .marker && (token.reads word || (word == "a" && token.reads "an"))

end Element

namespace Pattern

def of (source : String) (action : Action) (requirements : List Requirement) : Pattern :=
  ⟨source, Element.ofSource source ++ requirements.map Element.requirement, action⟩

/-- Words too common to tell one pattern from another. -/
def stopWords : List String := ["a", "an", "of", "is", "are", "the", "'", "\"", "s", ","]

/-- The words by which a pattern can be recognized. -/
def keywords (pattern : Pattern) : List String :=
  pattern.elements.filterMap fun
    | .word key => if stopWords.contains key then none else some key
    | _ => none

end Pattern

end Worldsmith
