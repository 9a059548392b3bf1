import Mathlib.Data.List.Infix
import Mathlib.Logic.Relation
import Worldsmith.Proofs.Search.Propagation
import Worldsmith.Proofs.Search.Record
import Worldsmith.Search.Engine

/-!
# The states of a search

A search goes from state to state by small steps: it examines a constraint, makes one literal true,
puts a decision on its stack, makes it, takes it from the stack, or goes back to where it was made.
The functions that search go through just these states, one after the other, whatever the order of
propositions and the values drawn.

## Main definitions

* `Moment` — where a search stands, with what it is about to do.
* `Moment.Step` — what one step leads to. Which value is tried first is left open.
* `Moment.Reaches` — some steps lead from one moment to another.

## Main statements

* `reaches_propagate`, `follows_retreat`, `ends_descend` — the parts of a search as runs of steps.
* `Problem.ends_search` — a search is a run of steps from its beginning to its outcome.
-/

namespace Worldsmith

/-- What a search is about to do. -/
inductive Stage where
  /-- Examine constraints, and then those that mention what is queued. -/
  | examine (todo : List Constraint) (queue : List Proposition)
  /-- Make literals true, and then go on examining. -/
  | force (literals : List Literal) (todo : List Constraint) (queue : List Proposition)
  /-- Choose the next proposition to decide. -/
  | choose
  /-- Make the latest decision, which takes a step. -/
  | decide
  /-- Take the latest decision from the stack. -/
  | retreat
  /-- Go back to the height of a decision that has been taken from the stack. -/
  | takeBack (decision : Decision)
  /-- Nothing more. -/
  | ended (outcome : Outcome)

/-- Where a search stands. -/
structure Moment where
  stage : Stage
  /-- The decisions, the latest first. One is on the stack before its literal is on the trail. -/
  stack : List Decision
  /-- What is to be decided, as far as it has no value by then. -/
  pending : List Proposition
  trail : Trail
  /-- The steps of the budget that are left. -/
  left : ℕ

namespace Moment

variable {occurrences : Occurrences} {order : List Proposition}

/-- What one step of a search leads to. After a retreat the whole order is pending again. -/
inductive Step (occurrences : Occurrences) (order : List Proposition) : Moment → Moment → Prop
  | next {p queue stack pending trail left} :
    Step occurrences order ⟨.examine [] (p :: queue), stack, pending, trail, left⟩
      ⟨.examine (occurrences.of p) queue, stack, pending, trail, left⟩
  | rest {stack pending trail left} :
    Step occurrences order ⟨.examine [] [], stack, pending, trail, left⟩
      ⟨.choose, stack, pending, trail, left⟩
  | exhausted {constraint todo queue stack pending trail} :
    Step occurrences order ⟨.examine (constraint :: todo) queue, stack, pending, trail, 0⟩
      ⟨.ended .timeout, stack, pending, trail, 0⟩
  | pass {constraint : Constraint} {todo queue stack pending} {trail : Trail} {left}
    (quiet : (constraint.consequence trail.value).isQuiet = true) :
    Step occurrences order ⟨.examine (constraint :: todo) queue, stack, pending, trail, left + 1⟩
      ⟨.examine todo queue, stack, pending, trail, left⟩
  | conflict {constraint : Constraint} {todo queue stack pending} {trail : Trail} {left}
    (broken : constraint.consequence trail.value = .conflict) :
    Step occurrences order ⟨.examine (constraint :: todo) queue, stack, pending, trail, left + 1⟩
      ⟨.retreat, stack, pending, trail, left⟩
  | forces {constraint : Constraint} {todo queue stack pending} {trail : Trail} {left literals}
    (forced : constraint.consequence trail.value = .force literals) :
    Step occurrences order ⟨.examine (constraint :: todo) queue, stack, pending, trail, left + 1⟩
      ⟨.force literals todo queue, stack, pending, trail, left⟩
  | forced {todo queue stack pending trail left} :
    Step occurrences order ⟨.force [] todo queue, stack, pending, trail, left⟩
      ⟨.examine todo queue, stack, pending, trail, left⟩
  | known {l literals todo queue stack pending} {trail : Trail} {left}
    (holds : trail.value l = some true) :
    Step occurrences order ⟨.force (l :: literals) todo queue, stack, pending, trail, left⟩
      ⟨.force literals todo queue, stack, pending, trail, left⟩
  | refused {l literals todo queue stack pending} {trail : Trail} {left}
    (fails : trail.value l = some false) :
    Step occurrences order ⟨.force (l :: literals) todo queue, stack, pending, trail, left⟩
      ⟨.retreat, stack, pending, trail, left⟩
  | assign {l literals todo queue stack pending} {trail : Trail} {left}
    (unknown : trail.value l = none) :
    Step occurrences order ⟨.force (l :: literals) todo queue, stack, pending, trail, left⟩
      ⟨.force literals todo (l.proposition :: queue), stack, pending, trail.assign l, left⟩
  | found {stack pending trail left} (all : skipAssigned trail pending = []) :
    Step occurrences order ⟨.choose, stack, pending, trail, left⟩
      ⟨.ended (.found trail left), stack, pending, trail, left⟩
  | choose {stack pending trail left p later} (value : Bool)
    (open_ : skipAssigned trail pending = p :: later) :
    Step occurrences order ⟨.choose, stack, pending, trail, left⟩
      ⟨.decide, ⟨p, value, false, trail.height⟩ :: stack, later, trail, left⟩
  | late {stack pending trail} :
    Step occurrences order ⟨.decide, stack, pending, trail, 0⟩
      ⟨.ended .timeout, stack, pending, trail, 0⟩
  | decide {decision : Decision} {stack pending} {trail : Trail} {left} :
    Step occurrences order ⟨.decide, decision :: stack, pending, trail, left + 1⟩
      ⟨.examine [] [decision.proposition], decision :: stack, pending,
        trail.assign decision.literal, left⟩
  | pop {decision stack pending trail left} :
    Step occurrences order ⟨.retreat, decision :: stack, pending, trail, left⟩
      ⟨.takeBack decision, stack, pending, trail, left⟩
  | drop {decision : Decision} {stack pending} {trail : Trail} {left}
    (both : decision.flipped = true) :
    Step occurrences order ⟨.takeBack decision, stack, pending, trail, left⟩
      ⟨.retreat, stack, pending, trail.undo decision.height, left⟩
  | flip {decision : Decision} {stack pending} {trail : Trail} {left}
    (one : decision.flipped = false) :
    Step occurrences order ⟨.takeBack decision, stack, pending, trail, left⟩
      ⟨.decide, decision.flip :: stack, order, trail.undo decision.height, left⟩
  | refuted {pending trail left} :
    Step occurrences order ⟨.retreat, [], pending, trail, left⟩
      ⟨.ended .contradiction, [], pending, trail, left⟩

/-- Whether some steps lead from one moment to another. -/
def Reaches (occurrences : Occurrences) (order : List Proposition) : Moment → Moment → Prop :=
  Relation.ReflTransGen (Step occurrences order)

/-- Whether a search that stands somewhere can end with an outcome. -/
def EndsIn (occurrences : Occurrences) (order : List Proposition) (moment : Moment)
    (outcome : Outcome) : Prop :=
  ∃ last, Reaches occurrences order moment last ∧ last.stage = .ended outcome

theorem EndsIn.after {moment later : Moment} {outcome : Outcome}
    (reaches : Reaches occurrences order moment later)
    (ends : EndsIn occurrences order later outcome) : EndsIn occurrences order moment outcome :=
  ends.imp fun _ both => ⟨reaches.trans both.1, both.2⟩

theorem EndsIn.head {moment later : Moment} {outcome : Outcome}
    (step : Step occurrences order moment later)
    (ends : EndsIn occurrences order later outcome) : EndsIn occurrences order moment outcome :=
  ends.after (.single step)

theorem EndsIn.of_step {moment later : Moment} {outcome : Outcome}
    (step : Step occurrences order moment later) (ended : later.stage = .ended outcome) :
    EndsIn occurrences order moment outcome :=
  ⟨later, .single step, ended⟩

end Moment

open Moment

variable {σ : Type} {occurrences : Occurrences} {order pending : List Proposition}
  {stack : List Decision}

/-! ## Propagation -/

/-- Where a search stands after propagation. -/
def Progress.moment (stack : List Decision) (pending : List Proposition) : Progress → Moment
  | ⟨.quiet, trail, left⟩ => ⟨.choose, stack, pending, trail, left⟩
  | ⟨.conflict, trail, left⟩ => ⟨.retreat, stack, pending, trail, left⟩
  | ⟨.exhausted, trail, left⟩ => ⟨.ended .timeout, stack, pending, trail, left⟩

/-- Where a search stands after it has tried to make literals true. -/
def forcedMoment (todo : List Constraint) (stack : List Decision) (pending : List Proposition)
    (left : ℕ) : Bool × Trail × List Proposition → Moment
  | (true, trail, queue) => ⟨.examine todo queue, stack, pending, trail, left⟩
  | (false, trail, _) => ⟨.retreat, stack, pending, trail, left⟩

theorem reaches_force (occurrences : Occurrences) (order : List Proposition)
    (stack : List Decision) (pending : List Proposition) (literals : List Literal)
    (todo : List Constraint) (queue : List Proposition) (trail : Trail) (left : ℕ) :
    Reaches occurrences order ⟨.force literals todo queue, stack, pending, trail, left⟩
      (forcedMoment todo stack pending left (trail.force literals queue)) := by
  fun_induction trail.force literals queue with
  | case1 => exact .single .forced
  | case2 l rest trail queue holds ih => exact ih.head (.known holds)
  | case3 l rest trail queue fails => exact .single (.refused fails)
  | case4 l rest trail queue unknown ih => exact ih.head (.assign unknown)

theorem reaches_propagate (occurrences : Occurrences) (order : List Proposition)
    (stack : List Decision) (pending : List Proposition) (left : ℕ) (todo : List Constraint)
    (queue : List Proposition) (trail : Trail) :
    Reaches occurrences order ⟨.examine todo queue, stack, pending, trail, left⟩
      ((propagate occurrences left todo queue trail).moment stack pending) := by
  fun_induction propagate occurrences left todo queue trail with
  | case1 => exact .single .rest
  | case2 left trail p queue ih => exact ih.head .next
  | case3 => exact .single .exhausted
  | case4 queue trail constraint todo left quiet ih => exact ih.head (.pass (by rw [quiet]; rfl))
  | case5 queue trail constraint todo left quiet ih => exact ih.head (.pass (by rw [quiet]; rfl))
  | case6 queue trail constraint todo left broken => exact .single (.conflict broken)
  | case7 queue trail constraint todo left literals forced trail' queue' done ih =>
    have run := reaches_force occurrences order stack pending literals todo queue trail left
    rw [done] at run
    exact .head (.forces forced) (run.trans ih)
  | case8 queue trail constraint todo left literals forced trail' queue' done =>
    have run := reaches_force occurrences order stack pending literals todo queue trail left
    rw [done] at run
    exact .head (.forces forced) run

/-! ## Decisions and retreats -/

variable {decision : Decision} {trail trail' : Trail} {left left' : ℕ} {verdict : Verdict}

/-- A decision that is pursued to the end has been made and propagated. -/
theorem reaches_of_pursue
    (pursued : decision.pursue occurrences left trail = ⟨verdict, trail', left'⟩)
    (ended : verdict ≠ .exhausted) :
    Reaches occurrences order ⟨.decide, decision :: stack, pending, trail, left⟩
      (Progress.moment (decision :: stack) pending ⟨verdict, trail', left'⟩) := by
  cases left with
  | zero => simp_all [Decision.pursue]
  | succ left =>
    rw [← pursued]
    exact .head .decide (reaches_propagate _ _ _ _ left _ _ _)

theorem ends_of_pursue
    (pursued : decision.pursue occurrences left trail = ⟨.exhausted, trail', left'⟩) :
    EndsIn occurrences order ⟨.decide, decision :: stack, pending, trail, left⟩ .timeout := by
  cases left with
  | zero => exact .of_step .late rfl
  | succ left =>
    have run := reaches_propagate occurrences order (decision :: stack) pending left []
      [decision.proposition] (trail.assign decision.literal)
    rw [Decision.pursue] at pursued
    rw [pursued] at run
    exact ⟨_, .head .decide run, rfl⟩

/-- Whether a search that stands somewhere goes on, or ends, as a retreat says. -/
def Retreat.Follows (occurrences : Occurrences) (order : List Proposition) (moment : Moment) :
    Retreat → Prop
  | .exhausted => EndsIn occurrences order moment .timeout
  | .refuted => EndsIn occurrences order moment .contradiction
  | .resumed left stack trail =>
    Reaches occurrences order moment ⟨.choose, stack, order, trail, left⟩

theorem Retreat.Follows.after {moment later : Moment} {retreat : Retreat}
    (reaches : Reaches occurrences order moment later)
    (follows : retreat.Follows occurrences order later) :
    retreat.Follows occurrences order moment := by
  cases retreat with
  | exhausted => exact EndsIn.after reaches follows
  | refuted => exact EndsIn.after reaches follows
  | resumed left stack trail => exact reaches.trans follows

theorem follows_retreat (pending : List Proposition) (left : ℕ) (stack : List Decision)
    (trail : Trail) : (retreat occurrences left stack trail).Follows occurrences order
      ⟨.retreat, stack, pending, trail, left⟩ := by
  fun_induction retreat occurrences left stack trail generalizing pending with
  | case1 => exact EndsIn.of_step .refuted rfl
  | case2 left decision stack trail back both ih =>
    exact (ih pending).after (.head .pop (.single (.drop both)))
  | case3 left decision stack trail back one after left' pursued =>
    exact .head .pop (.head (.flip (by simpa using one)) (reaches_of_pursue pursued (by simp)))
  | case4 left decision stack trail back one after left' pursued ih =>
    refine (ih order).after (.head .pop (.head (.flip (by simpa using one)) ?_))
    exact ((reaches_of_pursue pursued (by simp)).tail .pop).tail (.drop rfl)
  | case5 left decision stack trail back one after left' pursued =>
    exact .head .pop (.head (.flip (by simpa using one)) (ends_of_pursue pursued))

/-- A decision that meets a conflict is followed by a retreat. -/
theorem follows_choose (order : List Proposition) (stack : List Decision) {p : Proposition}
    {later : List Proposition} (value : Bool) (next : skipAssigned trail pending = p :: later)
    (pursued : Decision.pursue occurrences ⟨p, value, false, trail.height⟩ left trail =
      ⟨.conflict, trail', left'⟩) :
    (retreat occurrences left' (⟨p, value, false, trail.height⟩ :: stack) trail').Follows
      occurrences order ⟨.choose, stack, pending, trail, left⟩ :=
  (follows_retreat later left' _ trail').after
    (.head (.choose value next) (reaches_of_pursue pursued (by simp)))

/-- A descent is a run of steps to its outcome, whatever values are drawn. -/
theorem ends_descend (prior : Proposition → Float) (draw : Float → σ → Bool × σ) (source : σ)
    (left : ℕ) (stack : List Decision) (pending : List Proposition) (trail : Trail) :
    EndsIn occurrences order ⟨.choose, stack, pending, trail, left⟩
      (descend occurrences prior draw order left stack pending trail source).1 := by
  fun_induction descend occurrences prior draw order left stack pending trail source with
  | case1 left stack pending trail source done => exact .of_step (.found done) rfl
  | case2 left stack pending trail source p rest next value source' drawn decision after left'
      pursued _ ih =>
    exact .head (.choose value next) (ih.after (reaches_of_pursue pursued (by simp)))
  | case3 left stack pending trail source p rest next value source' drawn decision after left'
      pursued last stack' resumed retreated _ ih =>
    have follows := follows_choose order stack value next pursued
    rw [retreated] at follows
    exact ih.after follows
  | case4 left stack pending trail source p rest next value source' drawn decision after left'
      pursued retreated =>
    have follows := follows_choose order stack value next pursued
    rw [retreated] at follows
    exact follows
  | case5 left stack pending trail source p rest next value source' drawn decision after left'
      pursued retreated =>
    have follows := follows_choose order stack value next pursued
    rw [retreated] at follows
    exact follows
  | case6 left stack pending trail source p rest next value source' drawn decision after left'
      pursued =>
    exact .head (.choose value next) (ends_of_pursue pursued)

namespace Problem

/-- Where a search begins: all constraints are examined before anything is decided. -/
def firstMoment (problem : Problem) (budget : ℕ) (order : List Proposition) : Moment :=
  ⟨.examine problem.constraints.toList [], [], order, .blank problem.size, budget⟩

/-- A search is a run of steps from its beginning to its outcome. -/
theorem ends_search (problem : Problem) (chooser : Chooser σ) (budget : ℕ) (source : σ) :
    EndsIn problem.occurrences (chooser.order problem.propositions source).1
      (problem.firstMoment budget (chooser.order problem.propositions source).1)
      (problem.search chooser budget source).1 := by
  have run := reaches_propagate problem.occurrences (chooser.order problem.propositions source).1
    [] (chooser.order problem.propositions source).1 budget problem.constraints.toList []
    (.blank problem.size)
  rw [← settle] at run
  unfold search
  split
  case h_1 settled =>
    rw [settled] at run
    exact ⟨_, run, rfl⟩
  case h_2 settled =>
    rw [settled] at run
    exact .after run (.of_step .refuted rfl)
  case h_3 settled =>
    rw [settled] at run
    exact .after run (ends_descend _ _ _ _ _ _ _)

end Problem

end Worldsmith
