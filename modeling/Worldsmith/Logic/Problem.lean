import Worldsmith.Logic.Constraint
import Worldsmith.Logic.NameTable
import Worldsmith.Logic.Solution
import Worldsmith.Text.AsciiCase

/-!
# Problems

Named propositions, constraints on them, and variables. Asking for a name twice gives the same
proposition; a symmetric relation between two things is one proposition because both orders give
one name.
-/

namespace Worldsmith

/-- The probability of trying a proposition as true first, unless set otherwise. -/
def defaultPrior : Float := 0.5

structure Problem where
  names : NameTable
  priors : Array Float
  constraints : Array Constraint
  unknowns : Array Variable

namespace Problem

def empty : Problem := ⟨.empty, #[], #[], #[]⟩

instance : Inhabited Problem := ⟨empty⟩

/-! ## Propositions -/

/-- The name of a predicate that holds of one thing. -/
def unaryName (predicate argument : String) : String :=
  predicate ++ "(" ++ argument ++ ")"

/-- The name of a predicate that holds of two things. The order of the things does not matter if
the predicate is symmetric. -/
def binaryName (predicate first second : String) (symmetric : Bool) : String :=
  let (first, second) := if symmetric && second < first then (second, first) else (first, second)
  predicate ++ "(" ++ first ++ ", " ++ second ++ ")"

/-- The number of propositions. -/
def size (problem : Problem) : Nat := problem.names.size

/-- The proposition with a name, which is made if there is none. -/
def proposition : Problem → String → Proposition × Problem
  | ⟨names, priors, constraints, unknowns⟩, name =>
    let (index, names) := names.intern name
    let priors := if index = priors.size then priors.push defaultPrior else priors
    (⟨index⟩, ⟨names, priors, constraints, unknowns⟩)

/-- The proposition with a name, if there is one. -/
def find? (problem : Problem) (name : String) : Option Proposition :=
  (problem.names.find? name).map Proposition.mk

/-- The name of a proposition. -/
def name? (problem : Problem) (p : Proposition) : Option String := problem.names.names[p.index]?

def unary (problem : Problem) (predicate argument : String) : Proposition × Problem :=
  problem.proposition (unaryName predicate argument)

def findUnary? (problem : Problem) (predicate argument : String) : Option Proposition :=
  problem.find? (unaryName predicate argument)

def binary (problem : Problem) (predicate first second : String) (symmetric : Bool) :
    Proposition × Problem :=
  problem.proposition (binaryName predicate first second symmetric)

def prior (problem : Problem) (p : Proposition) : Float :=
  problem.priors.getD p.index defaultPrior

/-- The nearest probability to a number. -/
def clampProbability (x : Float) : Float :=
  if x < 0.0 then 0.0 else if 1.0 < x then 1.0 else x

/-- Set the probability of trying a proposition as true first. -/
def setPrior (problem : Problem) (p : Proposition) (probability : Float) : Problem :=
  { problem with
    priors := problem.priors.modify p.index fun _ => clampProbability probability }

/-! ## Constraints -/

def add (problem : Problem) (constraint : Constraint) : Problem :=
  { problem with constraints := problem.constraints.push constraint }

/-- At least one of the literals holds. -/
def clause (problem : Problem) (literals : List Literal) : Problem :=
  problem.add (.clause literals.eraseDups)

/-- The literal holds. -/
def assert (problem : Problem) (l : Literal) : Problem :=
  problem.clause [l]

def implies (problem : Problem) (premise conclusion : Literal) : Problem :=
  problem.clause [premise.negate, conclusion]

/-- Between `low` and `high` of the literals hold. -/
def quantify (problem : Problem) (low high : Nat) (literals : List Literal) : Problem :=
  problem.add (.between low high literals.eraseDups)

/-- Between `low` and `high` of the literals hold if the guard does. -/
def quantifyIf (problem : Problem) (guard : Literal) (low high : Nat) (literals : List Literal) :
    Problem :=
  problem.add ((Constraint.between low high literals.eraseDups).guarded guard)

def atMost (problem : Problem) (count : Nat) (literals : List Literal) : Problem :=
  problem.quantify 0 count literals

/-- Exactly one of the literals holds. -/
def unique (problem : Problem) (literals : List Literal) : Problem :=
  problem.quantify 1 1 literals

/-! ## Variables -/

/-- Add a variable, and give its number. -/
def addVariable (problem : Problem) (v : Variable) : Nat × Problem :=
  let index := problem.unknowns.size
  (index, { problem with unknowns := problem.unknowns.push v })

/-- A number between two bounds, whichever of them is the lower. -/
def rangeVariable (problem : Problem) (name : String) (low high : Float) (guard : Literal) :
    Nat × Problem :=
  let (low, high) := if high < low then (high, low) else (low, high)
  problem.addVariable ⟨name, guard, .range low high⟩

/-- The propositions that say which value a menu takes. -/
def choiceNames (problem : Problem) (name : String) : List String → List Proposition × Problem
  | [] => ([], problem)
  | value :: rest =>
    let (choice, problem) := problem.proposition (name ++ "=" ++ value)
    let (choices, problem) := choiceNames problem name rest
    (choice :: choices, problem)

/-- Give the choices of a menu a prior, and let each imply the guard. -/
def guardChoices (problem : Problem) (prior : Float) (guard : Literal)
    (choices : List Proposition) : Problem :=
  choices.foldl (fun problem choice =>
    (problem.setPrior choice prior).implies choice.positive guard) problem

/-- One of some texts if the guard holds, else none. Each is equally likely to be tried first. -/
def menuVariable (problem : Problem) (name : String) (values : List String) (guard : Literal) :
    Nat × Problem :=
  let (choices, problem) := problem.choiceNames name values
  let prior := 1.0 / (max choices.length 1).toUInt64.toFloat
  let problem := problem.guardChoices prior guard choices
  let problem := problem.quantifyIf guard 1 1 (choices.map Proposition.positive)
  problem.addVariable ⟨name, guard, .menu values choices⟩

/-- The values of a menu with their propositions. -/
def menu? (problem : Problem) (index : Nat) : Option (Literal × List (String × Proposition)) :=
  match problem.unknowns[index]? with
  | some ⟨_, guard, .menu values choices⟩ => some (guard, values.zip choices)
  | _ => none

/-- If all the conditions hold, the menu takes one of the values in `allowed`. Values that the menu
does not have are ignored. -/
def restrictMenu (problem : Problem) (index : Nat) (conditions : List Literal)
    (allowed : List String) : Problem :=
  match problem.menu? index with
  | none => problem
  | some (guard, choices) =>
    let permitted := choices.filter fun choice => allowed.any (Text.sameAscii · choice.1)
    problem.clause (guard.negate :: conditions.map Literal.negate ++
      permitted.map fun choice => choice.2.positive)

/-- The proposition that says that a menu takes a value. -/
def menuChoice? (problem : Problem) (index : Nat) (value : String) : Option Proposition :=
  (problem.menu? index).bind fun (_, choices) =>
    (choices.find? fun choice => Text.sameAscii choice.1 value).map Prod.snd

/-! ## Solutions -/

/-- The first constraint that a solution breaks. -/
def violated? (problem : Problem) (solution : Solution) : Option Constraint :=
  problem.constraints.find? fun constraint => !constraint.holds solution.satisfies

end Problem

end Worldsmith
