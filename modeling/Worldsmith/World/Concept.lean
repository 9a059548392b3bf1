import Worldsmith.World.Id

/-!
# Concepts, qualities and traits

A concept is anything a name can stand for. Kinds and adjectives are also qualities: each
individual has them or lacks them. A trait states one or the other.
-/

namespace Worldsmith

/-- What a name stands for. -/
inductive Concept where
  | kind (id : Id .kind)
  | adjective (id : Id .adjective)
  | verb (id : Id .verb)
  | individual (id : Id .individual)
  deriving DecidableEq, Repr

/-- The sort of concept, in words. -/
def Concept.describe : Concept → String
  | .kind _ => "kind"
  | .adjective _ => "adjective"
  | .verb _ => "verb"
  | .individual _ => "proper noun"

/-- Whether two concepts are of one sort. -/
def Concept.sameSort : Concept → Concept → Bool
  | .kind _, .kind _ => true
  | .adjective _, .adjective _ => true
  | .verb _, .verb _ => true
  | .individual _, .individual _ => true
  | _, _ => false

/-- The identifier of a concept as text. -/
def Concept.render : Concept → String
  | .kind id => id.render
  | .adjective id => id.render
  | .verb id => id.render
  | .individual id => id.render

/-- Something true or false of one individual: membership of a kind, or an adjective. -/
inductive Quality where
  | kind (id : Id .kind)
  | adjective (id : Id .adjective)
  deriving DecidableEq, Repr, Inhabited

/-- The quality a concept can serve as. -/
def Concept.quality? : Concept → Option Quality
  | .kind id => some (.kind id)
  | .adjective id => some (.adjective id)
  | _ => none

/-- A quality stated or denied. -/
structure Trait where
  quality : Quality
  positive : Bool
  deriving DecidableEq, Repr, Inhabited

/-- State the opposite. -/
def Trait.negate (trait : Trait) : Trait :=
  { trait with positive := !trait.positive }

/-- Whether a trait says that something is of a kind. -/
def Trait.isMembership (trait : Trait) : Bool :=
  match trait.quality with
  | .kind _ => trait.positive
  | .adjective _ => false

end Worldsmith
