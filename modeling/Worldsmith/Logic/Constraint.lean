import Worldsmith.Logic.Literal

/-!
# Constraints

All constraints bound the number of true literals in a list: a clause asks for at least one, a
uniqueness constraint for exactly one, and so on. A guard makes a constraint count only where the
guard is true.
-/

namespace Worldsmith

/-- If the guard holds, between `low` and `high` of the literals are true. -/
structure Constraint where
  guard : Option Literal
  literals : List Literal
  low : Nat
  high : Nat
  deriving DecidableEq, Repr

/-- What a constraint says once some propositions have values. -/
inductive Consequence where
  /-- Nothing follows yet. -/
  | undecided
  /-- The constraint holds whatever comes. -/
  | settled
  /-- These literals have to be true. -/
  | force (literals : List Literal)
  /-- The constraint is broken. -/
  | conflict
  deriving DecidableEq, Repr

namespace Constraint

def between (low high : Nat) (literals : List Literal) : Constraint :=
  ⟨none, literals, low, high⟩

def clause (literals : List Literal) : Constraint :=
  between 1 literals.length literals

def guarded (constraint : Constraint) (guard : Literal) : Constraint :=
  { constraint with guard := some guard }

/-- Whether no assignment can meet the bounds. -/
def isInfeasible (constraint : Constraint) : Bool :=
  constraint.high < constraint.low || constraint.literals.length < constraint.low

/-- Whether so many true literals are within the bounds. -/
def isMet (constraint : Constraint) (count : Nat) : Bool :=
  constraint.low ≤ count && count ≤ constraint.high

/-- Whether the constraint holds when every literal has a truth value. -/
def holds (constraint : Constraint) (value : Literal → Bool) : Bool :=
  constraint.guard.any (!value ·) || constraint.isMet (constraint.literals.countP value)

/-- The propositions that a constraint mentions. -/
def propositions (constraint : Constraint) : List Proposition :=
  (constraint.guard.toList ++ constraint.literals).map Literal.proposition

/-- Whether the bounds cannot be met any more when so many literals are true and so many unknown. -/
def isBroken (constraint : Constraint) (truths unknown : Nat) : Bool :=
  constraint.high < truths || truths + unknown < constraint.low

/-- What follows where the guard is true, given how many literals are true and which are unknown. -/
def unguarded (constraint : Constraint) (truths : Nat) (unknown : List Literal) : Consequence :=
  if constraint.isBroken truths unknown.length then .conflict
  else if unknown.isEmpty then .settled
  else if truths = constraint.high then .force (unknown.map Literal.negate)
  else if truths + unknown.length = constraint.low then .force unknown
  else .undecided

/-- What follows from a constraint, given the truth values known so far. -/
def consequence (constraint : Constraint) (value : Literal → Option Bool) : Consequence :=
  let truths := constraint.literals.countP fun l => value l == some true
  let unknown := constraint.literals.filter fun l => (value l).isNone
  match constraint.guard with
  | none => constraint.unguarded truths unknown
  | some guard =>
    match value guard with
    | some true => constraint.unguarded truths unknown
    | some false => .settled
    | none =>
      if constraint.isBroken truths unknown.length then .force [guard.negate] else .undecided

/-- A constraint as text: bounds, literals and guard. -/
def render (constraint : Constraint) : String :=
  let bounds := constraint.low.repr ++ ".." ++ constraint.high.repr
  let literals := String.join (constraint.literals.map fun l => " " ++ l.render)
  let guard := match constraint.guard with
    | none => ""
    | some guard => " if " ++ guard.render
  bounds ++ literals ++ guard

end Constraint

end Worldsmith
