import Worldsmith.Blueprint.Relations

/-!
# Models

A model is a blueprint with a solution of its problem. Questions about it are answered in terms of
the world: what a being turned out to be, what it has, and how beings are related.
-/

namespace Worldsmith

structure Model where
  blueprint : Blueprint
  solution : Solution

namespace Model

def world (m : Model) : World := m.blueprint.world

def being (m : Model) (i : Nat) : Being := m.blueprint.being i

/-- The number of beings. -/
def size (m : Model) : Nat := m.blueprint.beings.size

/-- Whether a being is of a kind. It has to be a kind that it could be. -/
def isOf (m : Model) (i : Nat) (kind : Id .kind) : Bool :=
  m.blueprint.couldBe i kind && (m.blueprint.kindProposition? i kind).any m.solution.holds

/-- Whether a being has an adjective. -/
def has (m : Model) (i : Nat) (adjective : Id .adjective) : Bool :=
  (m.blueprint.adjectiveProposition? i adjective).any m.solution.holds

/-- Whether a being has a quality. -/
def hasQuality (m : Model) (i : Nat) : Quality → Bool
  | .kind kind => m.isOf i kind
  | .adjective adjective => m.has i adjective

/-- Whether a trait holds of a being. -/
def hasTrait (m : Model) (i : Nat) (trait : Trait) : Bool :=
  m.hasQuality i trait.quality == trait.positive

/-- Whether a verb relates two beings. -/
def related (m : Model) (verb : Id .verb) (subject object : Nat) : Bool :=
  (m.blueprint.relation? verb subject object).any m.solution.holds

/-- Keep the first relation for each proposition. -/
def firstOfEach (seen : Std.HashSet Proposition) : List Relation → List Relation
  | [] => []
  | relation :: rest =>
    if seen.contains relation.proposition then firstOfEach seen rest
    else relation :: firstOfEach (seen.insert relation.proposition) rest

/-- All relations that hold. A mutual one is listed once. -/
def relationships (m : Model) : List Relation :=
  firstOfEach ∅ (m.blueprint.relations.toList.filter fun r => m.solution.holds r.proposition)

/-- Add the kinds in a list that a being is of and that have not been found. -/
def addTrue (m : Model) (i : Nat) (found kinds : List (Id .kind)) : List (Id .kind) :=
  kinds.foldl (fun found kind =>
    if !found.contains kind && m.isOf i kind then found ++ [kind] else found) found

/-- Add the kinds above those in `pending`, and those above what is found that way. Each kind that
is found takes one round. -/
def climb (m : Model) (i : Nat) :
    (rounds : Nat) → (pending found : List (Id .kind)) → List (Id .kind)
  | 0, _, found => found
  | _, [], found => found
  | rounds + 1, kind :: pending, found =>
    let found' := m.addTrue i found (m.world.ancestors kind)
    climb m i rounds (pending ++ found'.drop found.length) found'

/-- The kinds that a being is of: those at or below its declared kinds, then those above. -/
def kinds (m : Model) (i : Nat) : List (Id .kind) :=
  let below := (m.being i).kinds.foldl
    (fun found declared => m.addTrue i found (m.world.descendants declared)) []
  m.climb i (m.world.kinds.size + below.length) below below

/-- The kinds that a being is of, without those that follow from others. -/
def specificKinds (m : Model) (i : Nat) : List (Id .kind) :=
  m.world.mostSpecific (m.kinds i)

/-- The adjectives that a being has, without those that go without saying. -/
def adjectives (m : Model) (i : Nat) : List (Id .adjective) :=
  let relevant := (m.kinds i).flatMap fun kind => (m.world.kind kind).adjectives
  (relevant.filter fun a => !(m.world.adjective a).silent && m.has i a).eraseDups

/-- The value of a property: what the world has fixed, or what the solution says. -/
def value? (m : Model) (i : Nat) (property : Id .property) : Option String :=
  match m.blueprint.fixedValue? i property with
  | some value => some value
  | none =>
    ((m.being i).properties.find? (·.1 == property)).bind fun entry =>
      (m.solution.value? entry.2).map Value.render

end Model

end Worldsmith
