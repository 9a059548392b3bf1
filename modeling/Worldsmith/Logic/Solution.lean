import Worldsmith.Logic.Variable

/-!
# Solutions

A truth value for each proposition and a value for each variable whose guard is true.
-/

namespace Worldsmith

structure Solution where
  assignment : Array Bool
  values : Array (Option Value)
  /-- The search steps that were needed. -/
  steps : Nat

namespace Solution

/-- Whether a proposition is true. Unknown propositions are false. -/
def holds (solution : Solution) (p : Proposition) : Bool :=
  solution.assignment.getD p.index false

def satisfies (solution : Solution) (l : Literal) : Bool :=
  solution.holds l.proposition == l.positive

/-- The value of a variable, by the variable's number. -/
def value? (solution : Solution) (index : Nat) : Option Value :=
  solution.values.getD index none

end Solution

end Worldsmith
