import Std.Data.HashSet
import Worldsmith.Logic.Problem
import Worldsmith.World.Hierarchy

/-!
# Blueprints

A blueprint is a request made into a problem. It holds the beings that the problem is about: the
individuals of the world, the requested ones, and the parts of them all. For each pair of beings
that a verb could relate there is a proposition.
-/

namespace Worldsmith

/-- What to imagine. -/
structure Request where
  kind : Id .kind
  modifiers : List Trait
  count : Nat
  deriving DecidableEq, Repr

/-- Something that a problem is about. -/
structure Being where
  /-- A name that no other being has, for use in propositions. -/
  name : String
  /-- The kinds it was declared to be of. Whatever it can turn out to be is above or below one of
  them. -/
  kinds : List (Id .kind)
  modifiers : List Trait
  /-- The individual of the world that it is. -/
  permanent : Option (Id .individual)
  /-- The being that it is a part of, and which part. -/
  container : Option (Nat × Id .part)
  parts : List (Id .part × Nat)
  /-- Properties with the numbers of their variables. -/
  properties : List (Id .property × Nat)
  /-- How many beings it is within. -/
  depth : Nat
  deriving Inhabited

/-- The proposition that a verb relates two beings. -/
structure Relation where
  verb : Id .verb
  subject : Nat
  object : Nat
  proposition : Proposition
  deriving DecidableEq, Repr

structure Blueprint where
  world : World
  problem : Problem
  beings : Array Being
  /-- The beings that were asked for. -/
  requested : List Nat
  /-- Memberships that have been asserted. -/
  asserted : Std.HashSet (Nat × Id .kind)
  /-- Memberships whose consequences have been written down. -/
  expanded : Std.HashSet (Nat × Id .kind)
  /-- Memberships that have been denied because they cannot be. -/
  excluded : Std.HashSet (Nat × Id .kind)
  relations : Array Relation
  relationIndex : Std.HashMap (Id .verb × Nat × Nat) Proposition
  /-- The last number given to each name. -/
  counters : Std.HashMap String Nat

namespace Blueprint

/-- A blueprint of nothing. -/
def ofWorld (world : World) : Blueprint :=
  ⟨world, .empty, #[], [], ∅, ∅, ∅, #[], ∅, ∅⟩

/-- Parts of parts are within so many beings at most. -/
def maxPartDepth : Nat := 2

def being (b : Blueprint) (i : Nat) : Being := b.beings.getD i default

def modifyBeing (b : Blueprint) (i : Nat) (f : Being → Being) : Blueprint :=
  { b with beings := b.beings.modify i f }

def modifyProblem (b : Blueprint) (f : Problem → Problem) : Blueprint :=
  { b with problem := f b.problem }

/-- The proposition of a relation between two beings, if they could stand in it. -/
def relation? (b : Blueprint) (verb : Id .verb) (subject object : Nat) : Option Proposition :=
  b.relationIndex[(verb, subject, object)]?

/-- Whether a being could be of a kind. -/
def couldBe (b : Blueprint) (i : Nat) (kind : Id .kind) : Bool :=
  b.world.couldBe (b.being i).kinds kind

/-- The proposition that a being is of a kind, if the problem has it. -/
def kindProposition? (b : Blueprint) (i : Nat) (kind : Id .kind) : Option Proposition :=
  b.problem.findUnary? (b.world.kindName kind) (b.being i).name

/-- The proposition that a being has an adjective, if the problem has it. -/
def adjectiveProposition? (b : Blueprint) (i : Nat) (adjective : Id .adjective) :
    Option Proposition :=
  b.problem.findUnary? (b.world.adjectiveName adjective) (b.being i).name

/-! ## Making propositions -/

/-- The proposition that a being is of a kind. If it cannot be, the proposition is denied, once. -/
def isOf (b : Blueprint) (i : Nat) (kind : Id .kind) : Proposition × Blueprint :=
  let possible := b.couldBe i kind
  match b with
  | { world, problem, beings, requested, asserted, expanded, excluded, relations, relationIndex,
      counters } =>
    let (p, problem) := problem.unary (world.kindName kind) (beings.getD i default).name
    if possible || excluded.contains (i, kind) then
      (p, { world, problem, beings, requested, asserted, expanded, excluded, relations,
            relationIndex, counters })
    else
      let problem := problem.assert p.negative
      let excluded := excluded.insert (i, kind)
      (p, { world, problem, beings, requested, asserted, expanded, excluded, relations,
            relationIndex, counters })

/-- The proposition that a being has an adjective. -/
def has (b : Blueprint) (i : Nat) (adjective : Id .adjective) : Proposition × Blueprint :=
  let (p, problem) := b.problem.unary (b.world.adjectiveName adjective) (b.being i).name
  (p, { b with problem := problem })

/-- The literal that a being has a trait. -/
def literal (b : Blueprint) (i : Nat) (trait : Trait) : Literal × Blueprint :=
  match trait.quality with
  | .kind kind => let (p, b) := b.isOf i kind; (⟨p, trait.positive⟩, b)
  | .adjective adjective => let (p, b) := b.has i adjective; (⟨p, trait.positive⟩, b)

/-- The literals that a being has some traits. -/
def literals (b : Blueprint) (i : Nat) : List Trait → List Literal × Blueprint
  | [] => ([], b)
  | trait :: rest =>
    let (l, b) := b.literal i trait
    let (ls, b) := literals b i rest
    (l :: ls, b)

/-- The literals that a being is of some kinds. -/
def memberships (b : Blueprint) (i : Nat) : List (Id .kind) → List Literal × Blueprint
  | [] => ([], b)
  | kind :: rest =>
    let (p, b) := b.isOf i kind
    let (ls, b) := memberships b i rest
    (p.positive :: ls, b)

end Blueprint

end Worldsmith
