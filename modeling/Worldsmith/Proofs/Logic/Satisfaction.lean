import Mathlib.Tactic.Common
import Worldsmith.Logic.Problem

/-!
# Satisfaction

A valuation gives every proposition a truth value, an assignment gives one to some of them. What
follows from a constraint under an assignment is true of every valuation that completes it.

## Main statements

* `Constraint.consequence_sound` — conflicts, settled constraints and forced literals are right
  about every completion.
* `Constraint.consequence_of_known` — once all propositions of a constraint have values, it is
  settled or broken.
-/

namespace Worldsmith

/-- A truth value for every proposition. -/
abbrev Valuation := Proposition → Bool

/-- Truth values for some of the propositions. -/
abbrev Assignment := Proposition → Option Bool

namespace Valuation

def satisfies (v : Valuation) (l : Literal) : Bool := v l.proposition == l.positive

/-- Whether a valuation gives every proposition the value that an assignment gives it. -/
def Completes (v : Valuation) (a : Assignment) : Prop := ∀ p b, a p = some b → v p = b

@[simp] theorem satisfies_negate (v : Valuation) (l : Literal) :
    v.satisfies l.negate = !v.satisfies l := by
  simp only [satisfies, Literal.negate]
  cases v l.proposition <;> cases l.positive <;> rfl

theorem satisfies_iff {v : Valuation} {l : Literal} :
    v.satisfies l = true ↔ v l.proposition = l.positive := by
  simp [satisfies]

end Valuation

/-- The truth of a literal, if it is known. -/
def Assignment.value (a : Assignment) (l : Literal) : Option Bool := l.evaluate (a l.proposition)

theorem Assignment.value_eq_none {a : Assignment} {l : Literal} :
    a.value l = none ↔ a l.proposition = none := by
  simp [value, Literal.evaluate]

theorem Valuation.Completes.satisfies {v : Valuation} {a : Assignment} (h : v.Completes a)
    {l : Literal} {b : Bool} (known : a.value l = some b) : v.satisfies l = b := by
  simp only [Assignment.value, Literal.evaluate, Option.map_eq_some_iff] at known
  obtain ⟨x, hx, rfl⟩ := known
  rw [Valuation.satisfies, h _ _ hx]

/-- The true literals are those known to be true and those among the unknown that are true. -/
theorem Valuation.Completes.countP_satisfies {v : Valuation} {a : Assignment} (h : v.Completes a)
    (literals : List Literal) :
    literals.countP v.satisfies = literals.countP (fun l => a.value l == some true) +
      (literals.filter fun l => (a.value l).isNone).countP v.satisfies := by
  induction literals with
  | nil => rfl
  | cons l rest ih =>
    rw [List.countP_cons, List.countP_cons, List.filter_cons, ih]
    cases known : a.value l with
    | none => simp only [Option.isNone_none, if_true, List.countP_cons]; simp; omega
    | some b => rw [h.satisfies known]; cases b <;> simp; omega

namespace Consequence

/-- What a consequence says about a valuation under which the constraint holds or fails. -/
def SoundFor (v : Valuation) (holds : Bool) : Consequence → Prop
  | .undecided => True
  | .settled => holds = true
  | .force literals => holds = true → ∀ l ∈ literals, v.satisfies l = true
  | .conflict => holds = false

/-- Whether there is nothing to be done. -/
def isQuiet : Consequence → Bool
  | .undecided => true
  | .settled => true
  | .force _ => false
  | .conflict => false

end Consequence

namespace Constraint

variable {constraint : Constraint} {v : Valuation} {a : Assignment}

theorem isMet_iff {count : Nat} :
    constraint.isMet count = true ↔ constraint.low ≤ count ∧ count ≤ constraint.high := by
  simp [isMet]

theorem isBroken_iff {truths unknown : Nat} : constraint.isBroken truths unknown = true ↔
    constraint.high < truths ∨ truths + unknown < constraint.low := by
  simp [isBroken]

theorem isMet_of_isBroken {truths unknown count : Nat}
    (broken : constraint.isBroken truths unknown = true) (low : truths ≤ count)
    (high : count ≤ truths + unknown) : constraint.isMet count = false := by
  rw [isBroken_iff] at broken
  rw [Bool.eq_false_iff, Ne, isMet_iff]
  omega

/-- What follows without a guard is right when the unknown literals get their values. -/
theorem unguarded_sound (constraint : Constraint) (v : Valuation) (truths : Nat)
    (unknown : List Literal) :
    (constraint.unguarded truths unknown).SoundFor v
      (constraint.isMet (truths + unknown.countP v.satisfies)) := by
  have bound : unknown.countP v.satisfies ≤ unknown.length := List.countP_le_length
  unfold unguarded
  split_ifs with broken none full tight
  · exact isMet_of_isBroken broken (by omega) (by omega)
  · obtain rfl := List.isEmpty_iff.mp none
    rw [isBroken_iff, List.length_nil] at broken
    refine isMet_iff.mpr ?_
    rw [List.countP_nil]
    omega
  · intro met l hl
    rw [isMet_iff] at met
    obtain ⟨m, hm, rfl⟩ := List.mem_map.mp hl
    have all_false : unknown.countP v.satisfies = 0 := by omega
    rw [Valuation.satisfies_negate, Bool.not_eq_true']
    exact Bool.eq_false_iff.mpr (List.countP_eq_zero.mp all_false m hm)
  · intro met l hl
    rw [isMet_iff] at met
    have all_true : unknown.countP v.satisfies = unknown.length := by omega
    exact List.countP_eq_length.mp all_true l hl
  · trivial

/-- Under every completion a conflict means that the constraint fails, a settled constraint holds,
and what is forced is true if the constraint holds. -/
theorem consequence_sound (constraint : Constraint) (h : v.Completes a) :
    (constraint.consequence a.value).SoundFor v (constraint.holds v.satisfies) := by
  have bare := constraint.unguarded_sound v
    (constraint.literals.countP fun l => a.value l == some true)
    (constraint.literals.filter fun l => (a.value l).isNone)
  rw [← h.countP_satisfies] at bare
  unfold consequence holds
  cases guarded : constraint.guard with
  | none => simpa using bare
  | some guard =>
    cases known : a.value guard with
    | some b =>
      cases b with
      | true => simpa [h.satisfies known, known] using bare
      | false => simp [Consequence.SoundFor, h.satisfies known, known]
    | none =>
      simp only [known]
      split_ifs with broken
      · intro holds l hl
        have unmet : constraint.isMet (constraint.literals.countP v.satisfies) = false := by
          rw [h.countP_satisfies]
          exact isMet_of_isBroken broken (Nat.le_add_right _ _)
            (Nat.add_le_add_left List.countP_le_length _)
        rw [List.mem_singleton.mp hl, Valuation.satisfies_negate]
        simpa [unmet] using holds
      · trivial

/-- What is forced is not empty, unknown, and about the constraint's own propositions. -/
theorem consequence_force {literals : List Literal}
    (h : constraint.consequence a.value = .force literals) :
    literals ≠ [] ∧ ∀ l ∈ literals,
      l.proposition ∈ constraint.propositions ∧ a l.proposition = none := by
  have unguarded_force {truths : Nat}
      (forced : constraint.unguarded truths
        (constraint.literals.filter fun l => (a.value l).isNone) = .force literals) :
      literals ≠ [] ∧ ∀ l ∈ literals,
        l.proposition ∈ constraint.propositions ∧ a l.proposition = none := by
    have unknown : ∀ l ∈ constraint.literals.filter fun l => (a.value l).isNone,
        l.proposition ∈ constraint.propositions ∧ a l.proposition = none := by
      intro l hl
      simp only [List.mem_filter, Option.isNone_iff_eq_none, Assignment.value_eq_none] at hl
      exact ⟨List.mem_map_of_mem (List.mem_append_right _ hl.1), hl.2⟩
    unfold unguarded at forced
    split_ifs at forced with _ none
    · obtain rfl := Consequence.force.inj forced
      refine ⟨by simpa using none, ?_⟩
      intro l hl
      obtain ⟨m, hm, rfl⟩ := List.mem_map.mp hl
      exact unknown m hm
    · obtain rfl := Consequence.force.inj forced
      exact ⟨by simpa using none, unknown⟩
  unfold consequence at h
  cases guarded : constraint.guard with
  | none => rw [guarded] at h; exact unguarded_force h
  | some guard =>
    simp only [guarded] at h
    cases known : a.value guard with
    | some b =>
      cases b with
      | true => simp only [known] at h; exact unguarded_force h
      | false => simp [known] at h
    | none =>
      simp only [known] at h
      split_ifs at h
      obtain rfl := Consequence.force.inj h
      refine ⟨by simp, ?_⟩
      intro l hl
      obtain rfl := List.mem_singleton.mp hl
      have open_guard : a guard.proposition = none := Assignment.value_eq_none.mp known
      exact ⟨by simp [propositions, guarded, Literal.negate], open_guard⟩

/-- What follows depends only on the values of the constraint's own propositions. -/
theorem consequence_congr {b : Assignment} (h : ∀ p ∈ constraint.propositions, a p = b p) :
    constraint.consequence a.value = constraint.consequence b.value := by
  have literals : ∀ l ∈ constraint.literals, a.value l = b.value l := by
    intro l hl
    rw [Assignment.value, Assignment.value,
      h _ (List.mem_map_of_mem (List.mem_append_right _ hl))]
  have counts : (constraint.literals.countP fun l => a.value l == some true) =
      constraint.literals.countP fun l => b.value l == some true := by
    refine List.countP_congr ?_
    intro l hl
    rw [literals l hl]
  have unknown : (constraint.literals.filter fun l => (a.value l).isNone) =
      constraint.literals.filter fun l => (b.value l).isNone := by
    refine List.filter_congr ?_
    intro l hl
    rw [literals l hl]
  unfold consequence
  rw [counts, unknown]
  cases guarded : constraint.guard with
  | none => rfl
  | some guard =>
    have same : a.value guard = b.value guard := by
      rw [Assignment.value, Assignment.value, h _ (by simp [propositions, guarded])]
    simp only [same]

/-- When all its propositions have values, a constraint is settled or broken. -/
theorem consequence_of_known (h : ∀ p ∈ constraint.propositions, (a p).isSome = true) :
    constraint.consequence a.value = .settled ∨ constraint.consequence a.value = .conflict := by
  have known : ∀ l : Literal, l.proposition ∈ constraint.propositions → a.value l ≠ none := by
    intro l hl none
    rw [Assignment.value_eq_none] at none
    simpa [none] using h _ hl
  have unknown : (constraint.literals.filter fun l => (a.value l).isNone) = [] := by
    rw [List.filter_eq_nil_iff]
    intro l hl
    rw [Option.isNone_iff_eq_none]
    exact known l (List.mem_map_of_mem (List.mem_append_right _ hl))
  have bare (truths : Nat) :
      constraint.unguarded truths [] = .settled ∨ constraint.unguarded truths [] = .conflict := by
    unfold unguarded
    split_ifs <;> simp_all
  unfold consequence
  rw [unknown]
  cases guarded : constraint.guard with
  | none => exact bare _
  | some guard =>
    cases value : a.value guard with
    | none => exact absurd value (known guard (by simp [propositions, guarded]))
    | some b =>
      cases b with
      | true => simpa only [value] using bare _
      | false => simp [value]

/-- A quiet constraint whose propositions all have values holds. -/
theorem holds_of_isQuiet (known : ∀ p ∈ constraint.propositions, (a p).isSome = true)
    (quiet : (constraint.consequence a.value).isQuiet = true) (h : v.Completes a) :
    constraint.holds v.satisfies = true := by
  have sound := constraint.consequence_sound h
  rcases consequence_of_known known with settled | conflict
  · rwa [settled] at sound
  · simp [conflict, Consequence.isQuiet] at quiet

/-! ## What constraints ask for -/

theorem holds_between_iff {low high : Nat} {literals : List Literal} {value : Literal → Bool} :
    (between low high literals).holds value = true ↔
      low ≤ literals.countP value ∧ literals.countP value ≤ high := by
  rw [holds, isMet, Bool.or_eq_true, Bool.and_eq_true, decide_eq_true_iff, decide_eq_true_iff]
  exact or_iff_right (by simp [between])

/-- One of a clause's literals is true. -/
theorem holds_clause_iff {literals : List Literal} {value : Literal → Bool} :
    (clause literals).holds value = true ↔ ∃ l ∈ literals, value l = true := by
  rw [clause, holds_between_iff, Nat.one_le_iff_ne_zero, ← Nat.pos_iff_ne_zero, List.countP_pos_iff]
  exact and_iff_left List.countP_le_length

/-- A guarded constraint asks for nothing unless its guard is true. -/
theorem holds_guarded_iff {low high : Nat} {literals : List Literal} {guard : Literal}
    {value : Literal → Bool} : ((between low high literals).guarded guard).holds value = true ↔
      (value guard = true → low ≤ literals.countP value ∧ literals.countP value ≤ high) := by
  rw [holds, isMet, Bool.or_eq_true, Bool.and_eq_true, decide_eq_true_iff, decide_eq_true_iff]
  cases known : value guard <;> simp [between, guarded, known]

end Constraint

namespace Problem

/-- Whether a valuation meets all constraints of a problem. -/
def SatisfiedBy (problem : Problem) (v : Valuation) : Prop :=
  ∀ constraint ∈ problem.constraints.toList, constraint.holds v.satisfies = true

/-- Whether some valuation meets all constraints of a problem. -/
def Satisfiable (problem : Problem) : Prop := ∃ v, problem.SatisfiedBy v

/-- A solution breaks no constraint if and only if its truth values meet them all. -/
theorem violated?_eq_none_iff (problem : Problem) (solution : Solution) :
    problem.violated? solution = none ↔ problem.SatisfiedBy solution.holds := by
  have same : solution.satisfies = Valuation.satisfies solution.holds := rfl
  rw [violated?, Array.find?_eq_none, same]
  simp [SatisfiedBy]

end Problem

end Worldsmith
