import Worldsmith.Search.Trail

/-!
# Propagation

Constraints are examined one after another; what they force is queued, newest first, and the
constraints that mention it are examined in turn. Each examination takes one step of the budget.
-/

namespace Worldsmith

/-- How propagation ended. -/
inductive Verdict where
  /-- Nothing more follows. -/
  | quiet
  | conflict
  /-- No steps were left. -/
  | exhausted
  deriving DecidableEq, Repr

/-- Where propagation ended. -/
structure Progress where
  verdict : Verdict
  trail : Trail
  /-- The steps that are left. -/
  left : Nat

/-- For each proposition the constraints that mention it, in order. -/
abbrev Occurrences := Array (List Constraint)

namespace Occurrences

/-- Put a constraint in front of those of each proposition that it mentions. -/
def put (constraint : Constraint) (occurrences : Occurrences) : Occurrences :=
  constraint.propositions.eraseDups.foldl
    (fun occurrences p => occurrences.modify p.index (constraint :: ·)) occurrences

/-- The occurrences of `count` propositions in some constraints. -/
def ofConstraints (count : Nat) (constraints : List Constraint) : Occurrences :=
  constraints.foldr put (Array.replicate count [])

def of (occurrences : Occurrences) (p : Proposition) : List Constraint :=
  occurrences.getD p.index []

end Occurrences

/-- Examine the constraints in `todo`, then those that mention what is queued. -/
def propagate (occurrences : Occurrences) (left : Nat) (todo : List Constraint)
    (queue : List Proposition) (trail : Trail) : Progress :=
  match todo with
  | [] =>
    match queue with
    | [] => ⟨.quiet, trail, left⟩
    | p :: queue => propagate occurrences left (occurrences.of p) queue trail
  | constraint :: todo =>
    match left with
    | 0 => ⟨.exhausted, trail, 0⟩
    | left + 1 =>
      match constraint.consequence trail.value with
      | .undecided => propagate occurrences left todo queue trail
      | .settled => propagate occurrences left todo queue trail
      | .conflict => ⟨.conflict, trail, left⟩
      | .force literals =>
        match trail.force literals queue with
        | (true, trail, queue) => propagate occurrences left todo queue trail
        | (false, trail, _) => ⟨.conflict, trail, left⟩
termination_by (left, queue.length)

/-- Propagation never gains steps. -/
theorem left_propagate_le (occurrences : Occurrences) (left : Nat) (todo : List Constraint)
    (queue : List Proposition) (trail : Trail) :
    (propagate occurrences left todo queue trail).left ≤ left := by
  fun_induction propagate occurrences left todo queue trail <;> grind

end Worldsmith
