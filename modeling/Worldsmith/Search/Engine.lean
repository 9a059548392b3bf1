import Worldsmith.Logic.Problem
import Worldsmith.Random.Draw
import Worldsmith.Search.Descent
import Worldsmith.Error

/-!
# Engine

A search first propagates all constraints, then decides propositions in an order that is drawn
only if that meets no conflict, and last draws a number for each range whose guard is true. An
engine supplies the draws and the budget of steps; its stream goes on from search to search.
-/

namespace Worldsmith

/-- Where a search takes its choices from. -/
structure Chooser (σ : Type) where
  /-- The order in which propositions are decided. -/
  order : List Proposition → σ → List Proposition × σ
  /-- The truth value to try first, given the probability that it is true. -/
  polarity : Float → σ → Bool × σ
  /-- A number between two bounds. -/
  number : Float → Float → σ → Float × σ
  /-- Every proposition is decided, and none twice. -/
  order_perm : ∀ propositions source, (order propositions source).1.Perm propositions

/-- Choices drawn from a stream of random words. -/
def Stream.chooser : Chooser Stream where
  order propositions stream :=
    let (order, stream) := stream.shuffle propositions.toArray
    (order.toList, stream)
  polarity := drawBool
  number := drawBetween
  order_perm propositions stream := (stream.shuffle_perm propositions.toArray).toList

namespace Problem

/-- All propositions, in the order in which they were made. -/
def propositions (problem : Problem) : List Proposition :=
  (List.range problem.size).map Proposition.mk

def occurrences (problem : Problem) : Occurrences :=
  .ofConstraints problem.size problem.constraints.toList

/-- Propagate all constraints before anything is decided. -/
def settle (problem : Problem) (budget : Nat) : Progress :=
  propagate problem.occurrences budget problem.constraints.toList [] (.blank problem.size)

/-- Search for values of all propositions that satisfy all constraints. The order of decisions and
the values to try first are drawn from a source. -/
def search {σ : Type} (problem : Problem) (chooser : Chooser σ) (budget : Nat) (source : σ) :
    Outcome × σ :=
  match problem.settle budget with
  | ⟨.exhausted, _, _⟩ => (.timeout, source)
  | ⟨.conflict, _, _⟩ => (.contradiction, source)
  | ⟨.quiet, trail, left⟩ =>
    let (order, source) := chooser.order problem.propositions source
    descend problem.occurrences problem.prior chooser.polarity order left [] order trail source

end Problem

/-- The truth values on a trail. A proposition without one counts as false. -/
def Trail.assignment (trail : Trail) : Array Bool :=
  trail.values.map (·.getD false)

/-- Draw the value of a variable, given the truth of literals. A menu has the first value whose
proposition is true. -/
def Variable.draw {σ : Type} (v : Variable) (holds : Literal → Bool)
    (number : Float → Float → σ → Float × σ) (source : σ) : Option Value × σ :=
  if holds v.guard then
    match v.domain with
    | .range low high =>
      let (x, source) := number low high source
      (some (.number x), source)
    | .menu values choices =>
      let taken := (values.zip choices).find? fun choice => holds choice.2.positive
      (taken.map fun choice => .text choice.1, source)
  else (none, source)

/-- Draw the values of variables in order. -/
def drawValues {σ : Type} (holds : Literal → Bool) (number : Float → Float → σ → Float × σ) :
    List Variable → σ → List (Option Value) × σ
  | [], source => ([], source)
  | v :: rest, source =>
    let (value, source) := v.draw holds number source
    let (values, source) := drawValues holds number rest source
    (value :: values, source)

/-- Search for a solution of a problem within a budget of steps. -/
def Problem.solve {σ : Type} (problem : Problem) (chooser : Chooser σ) (budget : Nat)
    (source : σ) : Except SearchFailure Solution × σ :=
  match problem.search chooser budget source with
  | (.timeout, source) => (.error (.timeout budget), source)
  | (.contradiction, source) => (.error .contradiction, source)
  | (.found trail left, source) =>
    let assignment := trail.assignment
    let holds := fun l : Literal => assignment.getD l.proposition.index false == l.positive
    let (values, source) := drawValues holds chooser.number problem.unknowns.toList source
    (.ok ⟨assignment, values.toArray, budget - left⟩, source)

/-- What a search draws from, and its budget. -/
structure Engine where
  stream : Stream
  maxSteps : Nat

namespace Engine

def ofSeed (seed maxSteps : Nat) : Engine :=
  ⟨.ofSeed seed.toUInt64, maxSteps⟩

/-- Search for a solution of a problem. -/
def solve (engine : Engine) (problem : Problem) : Except SearchFailure Solution × Engine :=
  let (result, stream) := problem.solve Stream.chooser engine.maxSteps engine.stream
  (result, { engine with stream := stream })

end Engine

end Worldsmith
