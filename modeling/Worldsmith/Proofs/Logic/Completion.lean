import Mathlib.Data.List.Nodup
import Mathlib.Logic.Function.Basic
import Mathlib.Tactic.Common
import Worldsmith.Proofs.Logic.Satisfaction

/-!
# Nothing more follows from a constraint

What follows from a constraint is true of every completion that meets it, and once all is known it
is settled or broken. Where the literals of a constraint are about different propositions that is
also all that can be said: any number of the unknown literals can still become true, so while
nothing follows each of them can still be either true or false.

## Main definitions

* `Assignment.assign` — an assignment in which one more literal is true.
* `Constraint.IsProper` — literals and guard are about different propositions, and the bounds are
  in order.

## Main statements

* `Assignment.exists_completes_countP` — every number of true literals that is still possible comes
  about in some completion.
* `Constraint.consequence_strongest` — consequences are right, and of proper constraints nothing is
  left out.
-/

namespace Worldsmith

namespace Assignment

variable {a : Assignment} {l m : Literal} {literals : List Literal} {v : Valuation}

/-- The assignment in which a literal is also true. -/
def assign (a : Assignment) (l : Literal) : Assignment :=
  Function.update a l.proposition (some l.positive)

/-- The number of literals that are known to be true. -/
def truths (a : Assignment) (literals : List Literal) : Nat :=
  literals.countP fun l => a.value l == some true

/-- The literals whose truth is not known. -/
def unknown (a : Assignment) (literals : List Literal) : List Literal :=
  literals.filter fun l => (a.value l).isNone

theorem mem_unknown : l ∈ a.unknown literals ↔ l ∈ literals ∧ a l.proposition = none := by
  simp [unknown, value_eq_none]

theorem value_assign_of_eq (same : m.proposition = l.proposition) :
    (a.assign l).value m = some (l.positive == m.positive) := by
  simp [value, assign, same, Literal.evaluate]

theorem value_assign_of_ne (apart : m.proposition ≠ l.proposition) :
    (a.assign l).value m = a.value m := by
  simp [value, assign, apart]

/-- Literals that are not about a proposition do not depend on its value. -/
theorem counts_assign_of_notMem (apart : l.proposition ∉ literals.map Literal.proposition) :
    (a.assign l).truths literals = a.truths literals ∧
      (a.assign l).unknown literals = a.unknown literals := by
  have same : ∀ m ∈ literals, (a.assign l).value m = a.value m := by
    intro m hm
    apply value_assign_of_ne
    intro about
    exact apart (about ▸ List.mem_map_of_mem hm)
  constructor
  · apply List.countP_congr
    intro m hm
    rw [same m hm]
  · apply List.filter_congr
    intro m hm
    rw [same m hm]

/-- Giving an unknown literal a truth value leaves one less unknown, and one more true if it is. -/
theorem counts_assign (apart : (literals.map Literal.proposition).Nodup)
    (open_literal : l ∈ a.unknown literals) (same : m.proposition = l.proposition) :
    (a.assign m).truths literals =
        a.truths literals + (if m.positive = l.positive then 1 else 0) ∧
      ((a.assign m).unknown literals).length + 1 = (a.unknown literals).length := by
  obtain ⟨mem, unassigned⟩ := mem_unknown.mp open_literal
  obtain ⟨before, after, rfl⟩ := List.append_of_mem mem
  rw [List.map_append, List.map_cons, List.nodup_append, List.nodup_cons] at apart
  obtain ⟨-, ⟨notAfter, -⟩, disjoint⟩ := apart
  have notBefore : l.proposition ∉ before.map Literal.proposition := by
    intro hb
    exact disjoint _ hb _ List.mem_cons_self rfl
  rw [← same] at notBefore notAfter
  obtain ⟨truthsBefore, unknownBefore⟩ := counts_assign_of_notMem (a := a) notBefore
  obtain ⟨truthsAfter, unknownAfter⟩ := counts_assign_of_notMem (a := a) notAfter
  have here : (a.assign m).value l = some (m.positive == l.positive) := value_assign_of_eq same.symm
  have before' : a.value l = none := value_eq_none.mpr unassigned
  simp only [truths, unknown] at truthsBefore unknownBefore truthsAfter unknownAfter ⊢
  rw [List.countP_append, List.countP_append, List.countP_cons, List.countP_cons,
    List.filter_append, List.filter_append, List.filter_cons, List.filter_cons, truthsBefore,
    truthsAfter, unknownBefore, unknownAfter, here, before']
  constructor
  · simp
    omega
  · simp
    omega

theorem completes_of_assign (open_literal : a l.proposition = none)
    (h : v.Completes (a.assign l)) : v.Completes a ∧ v.satisfies l = true := by
  constructor
  · intro p b known
    have apart : p ≠ l.proposition := by
      rintro rfl
      simp [open_literal] at known
    exact h p b (by simp [assign, apart, known])
  · rw [Valuation.satisfies_iff]
    exact h _ _ (by simp [assign])

theorem exists_completes (a : Assignment) : ∃ v : Valuation, v.Completes a := by
  refine ⟨fun p => (a p).getD false, ?_⟩
  intro p b known
  simp [known]

/-- Any number of the unknown literals can become true. -/
theorem exists_completes_countP (apart : (literals.map Literal.proposition).Nodup) {count : Nat}
    (low : a.truths literals ≤ count)
    (high : count ≤ a.truths literals + (a.unknown literals).length) :
    ∃ v : Valuation, v.Completes a ∧ literals.countP v.satisfies = count := by
  -- One unknown literal after the other gets a value, as long as enough of them are left.
  induction left : (a.unknown literals).length generalizing a with
  | zero =>
    obtain ⟨v, completes⟩ := a.exists_completes
    refine ⟨v, completes, ?_⟩
    have split := completes.countP_satisfies literals
    have none_left : a.unknown literals = [] := List.eq_nil_of_length_eq_zero left
    simp only [unknown] at none_left
    rw [none_left, List.countP_nil] at split
    simp only [truths] at low high
    omega
  | succ n ih =>
    obtain ⟨l, rest, some_left⟩ := List.exists_cons_of_length_eq_add_one left
    have mem : l ∈ a.unknown literals := some_left ▸ List.mem_cons_self
    have unassigned := (mem_unknown.mp mem).2
    by_cases all : count = a.truths literals + (a.unknown literals).length
    · obtain ⟨truths, unknown⟩ := counts_assign (m := l) apart mem rfl
      rw [if_pos rfl] at truths
      obtain ⟨v, completes, counted⟩ :=
        ih (a := a.assign l) (by omega) (by omega) (by omega)
      exact ⟨v, (completes_of_assign unassigned completes).1, counted⟩
    · obtain ⟨truths, unknown⟩ := counts_assign (m := l.negate) apart mem rfl
      rw [if_neg (by simp [Literal.negate])] at truths
      obtain ⟨v, completes, counted⟩ :=
        ih (a := a.assign l.negate) (by omega) (by omega) (by omega)
      exact ⟨v, (completes_of_assign (l := l.negate) unassigned completes).1, counted⟩

end Assignment

namespace Constraint

variable {constraint : Constraint} {a : Assignment} {v : Valuation} {l : Literal}

/-- Whether the literals are about different propositions, none of them the guard's, and the bounds
are in order. -/
structure IsProper (constraint : Constraint) : Prop where
  apart : (constraint.literals.map Literal.proposition).Nodup
  guard : ∀ guard ∈ constraint.guard,
    guard.proposition ∉ constraint.literals.map Literal.proposition
  ordered : constraint.low ≤ constraint.high

theorem holds_of_countP (low : constraint.low ≤ constraint.literals.countP v.satisfies)
    (high : constraint.literals.countP v.satisfies ≤ constraint.high) :
    constraint.holds v.satisfies = true := by
  rw [holds, isMet_iff.mpr ⟨low, high⟩, Bool.or_true]

theorem holds_of_guard {guard : Literal} (guarded : constraint.guard = some guard)
    (unmet : v.satisfies guard = false) : constraint.holds v.satisfies = true := by
  simp [holds, guarded, unmet]

/-! ## Guards -/

/-- The guard is true or there is none, or it is false or not known. -/
theorem guard_cases (constraint : Constraint) (a : Assignment) :
    (∀ guard ∈ constraint.guard, a.value guard = some true) ∨
      ∃ guard, constraint.guard = some guard ∧
        (a.value guard = some false ∨ a.value guard = none) := by
  cases guarded : constraint.guard with
  | none => exact .inl (by simp)
  | some guard =>
    cases known : a.value guard with
    | none => exact .inr ⟨guard, rfl, .inr known⟩
    | some b =>
      cases b with
      | true => exact .inl (by simp [known])
      | false => exact .inr ⟨guard, rfl, .inl known⟩

theorem consequence_of_guard (active : ∀ guard ∈ constraint.guard, a.value guard = some true) :
    constraint.consequence a.value = constraint.unguarded (a.truths constraint.literals)
      (a.unknown constraint.literals) := by
  unfold consequence
  cases guarded : constraint.guard with
  | none => rfl
  | some guard =>
    have known := active guard guarded
    simp only [known]
    rfl

theorem consequence_of_refused {guard : Literal} (guarded : constraint.guard = some guard)
    (refused : a.value guard = some false) : constraint.consequence a.value = .settled := by
  simp [consequence, guarded, refused]

theorem consequence_of_open {guard : Literal} (guarded : constraint.guard = some guard)
    (unassigned : a.value guard = none) : constraint.consequence a.value =
      if constraint.isBroken (a.truths constraint.literals) (a.unknown constraint.literals).length
      then .force [guard.negate] else .undecided := by
  unfold consequence
  simp only [guarded, unassigned]
  rfl

/-! ## While nothing follows -/

/-- Nothing follows while the bounds can be met, unless the guard is known to be true: then there
has to be some room between the literals and both bounds. -/
theorem cases_of_undecided (undecided : constraint.consequence a.value = .undecided) :
    (a.truths constraint.literals ≤ constraint.high ∧
      constraint.low ≤ a.truths constraint.literals + (a.unknown constraint.literals).length) ∧
    ((∃ guard, constraint.guard = some guard ∧ a guard.proposition = none) ∨
      (∀ guard ∈ constraint.guard, a.value guard = some true) ∧
        a.truths constraint.literals < constraint.high ∧
        constraint.low <
          a.truths constraint.literals + (a.unknown constraint.literals).length) := by
  rcases constraint.guard_cases a with active | ⟨guard, guarded, refused | unassigned⟩
  · rw [consequence_of_guard active, unguarded] at undecided
    split_ifs at undecided with broken none full tight
    rw [isBroken_iff] at broken
    exact ⟨by omega, .inr ⟨active, by omega, by omega⟩⟩
  · simp [consequence_of_refused guarded refused] at undecided
  · rw [consequence_of_open guarded unassigned] at undecided
    split_ifs at undecided with broken
    rw [isBroken_iff] at broken
    exact ⟨by omega, .inl ⟨guard, guarded, Assignment.value_eq_none.mp unassigned⟩⟩

/-- While nothing follows from a proper constraint, each unknown literal can still become both true
and false, with the constraint met. -/
theorem exists_holds_of_undecided (proper : constraint.IsProper)
    (undecided : constraint.consequence a.value = .undecided)
    (mem : l ∈ constraint.guard.toList ++ constraint.literals) (unassigned : a l.proposition = none)
    (b : Bool) :
    ∃ v : Valuation, v.Completes a ∧ v.satisfies l = b ∧ constraint.holds v.satisfies = true := by
  obtain ⟨m, about, same⟩ : ∃ m : Literal, m.proposition = l.proposition ∧
      ∀ v : Valuation, v.satisfies m = true → v.satisfies l = b := by
    cases b with
    | true => exact ⟨l, rfl, fun _ => id⟩
    | false => exact ⟨l.negate, rfl, fun v h => by simpa using h⟩
  have unassigned' : a m.proposition = none := about ▸ unassigned
  obtain ⟨⟨high, low⟩, ⟨guard, guarded, open_guard⟩ | ⟨true_guard, full, tight⟩⟩ :=
    cases_of_undecided undecided
  · have apart := proper.guard guard guarded
    rw [guarded, Option.toList_some, List.singleton_append, List.mem_cons] at mem
    rcases mem with rfl | mem
    · cases b with
      | true =>
        -- The guard is true, and the bounds can be met by the literals.
        obtain ⟨truths, unknown⟩ := Assignment.counts_assign_of_notMem (a := a) apart
        have meets : max (a.truths constraint.literals) constraint.low ≤
            a.truths constraint.literals + (a.unknown constraint.literals).length := by omega
        rw [← truths, ← unknown] at meets
        obtain ⟨v, completes, counted⟩ :=
          Assignment.exists_completes_countP proper.apart (Nat.le_max_left ..) meets
        rw [truths] at counted
        obtain ⟨completes, isTrue⟩ := Assignment.completes_of_assign unassigned completes
        have ordered := proper.ordered
        exact ⟨v, completes, isTrue, holds_of_countP (by omega) (by omega)⟩
      | false =>
        obtain ⟨v, completes⟩ := (a.assign m).exists_completes
        obtain ⟨completes, isTrue⟩ := Assignment.completes_of_assign unassigned' completes
        exact ⟨v, completes, same v isTrue, holds_of_guard guarded (same v isTrue)⟩
    · -- The guard is false, and nothing is asked of the literals.
      obtain ⟨v, completes⟩ := ((a.assign m).assign guard.negate).exists_completes
      have other : guard.proposition ≠ m.proposition := by
        intro h
        exact apart (h.trans about ▸ List.mem_map_of_mem mem)
      obtain ⟨completes, isFalse⟩ := Assignment.completes_of_assign
        (l := guard.negate) (by simp [Assignment.assign, Literal.negate, other, open_guard])
        completes
      obtain ⟨completes, isTrue⟩ := Assignment.completes_of_assign unassigned' completes
      exact ⟨v, completes, same v isTrue, holds_of_guard guarded (by simpa using isFalse)⟩
  · have among : l ∈ constraint.literals := by
      rcases List.mem_append.mp mem with mem | mem
      · have known := true_guard l (by simpa using mem)
        simp [Assignment.value_eq_none.mpr unassigned] at known
      · exact mem
    have open_literal := Assignment.mem_unknown.mpr ⟨among, unassigned⟩
    obtain ⟨truths, unknown⟩ := Assignment.counts_assign proper.apart open_literal about
    have step : (if m.positive = l.positive then 1 else 0) ≤ 1 := by split_ifs <;> omega
    have meets : max ((a.assign m).truths constraint.literals) constraint.low ≤
        (a.assign m).truths constraint.literals +
          ((a.assign m).unknown constraint.literals).length := by omega
    obtain ⟨v, completes, counted⟩ :=
      Assignment.exists_completes_countP proper.apart (Nat.le_max_left ..) meets
    obtain ⟨completes, isTrue⟩ := Assignment.completes_of_assign unassigned' completes
    have ordered := proper.ordered
    exact ⟨v, completes, same v isTrue, holds_of_countP (by omega) (by omega)⟩

/-- When all propositions of a constraint have values it is settled if it holds, else broken. -/
theorem consequence_eq_of_known (known : ∀ p ∈ constraint.propositions, (a p).isSome = true)
    (h : v.Completes a) : constraint.consequence a.value =
      if constraint.holds v.satisfies then .settled else .conflict := by
  have sound := constraint.consequence_sound h
  rcases consequence_of_known known with settled | conflict
  · rw [settled] at sound ⊢
    have met : constraint.holds v.satisfies = true := sound
    rw [if_pos met]
  · rw [conflict] at sound ⊢
    have unmet : constraint.holds v.satisfies = false := sound
    simp [unmet]

/-- A conflict rules every completion out, a settled constraint is met by every completion, and
what is forced is true in every completion that meets the constraint. Once all its propositions
have values a constraint is settled or broken, just as it holds or fails. As long as nothing
follows from a proper constraint, its guard and its literals that are not known can each be
completed either way so that it is met. -/
theorem consequence_strongest (constraint : Constraint) (a : Assignment) :
    (constraint.consequence a.value = .conflict →
      ∀ v : Valuation, v.Completes a → constraint.holds v.satisfies = false) ∧
    (constraint.consequence a.value = .settled →
      ∀ v : Valuation, v.Completes a → constraint.holds v.satisfies = true) ∧
    (∀ literals, constraint.consequence a.value = .force literals →
      ∀ v : Valuation, v.Completes a → constraint.holds v.satisfies = true →
        ∀ l ∈ literals, v.satisfies l = true) ∧
    ((∀ p ∈ constraint.propositions, (a p).isSome = true) →
      ∀ v : Valuation, v.Completes a → constraint.consequence a.value =
        if constraint.holds v.satisfies then .settled else .conflict) ∧
    (constraint.IsProper → constraint.consequence a.value = .undecided →
      ∀ l ∈ constraint.guard.toList ++ constraint.literals, a l.proposition = none →
        ∀ b, ∃ v : Valuation, v.Completes a ∧ v.satisfies l = b ∧
          constraint.holds v.satisfies = true) := by
  have sound (v : Valuation) (h : v.Completes a) := constraint.consequence_sound h
  refine ⟨?_, ?_, ?_, ?_, ?_⟩
  · intro conflict v h
    simpa only [conflict, Consequence.SoundFor] using sound v h
  · intro settled v h
    simpa only [settled, Consequence.SoundFor] using sound v h
  · intro literals forced v h
    simpa only [forced, Consequence.SoundFor] using sound v h
  · intro known v h
    exact consequence_eq_of_known known h
  · intro proper undecided l mem unassigned b
    exact exists_holds_of_undecided proper undecided mem unassigned b

end Constraint

/-! ## A picnic -/

namespace Picnic

def holiday : Proposition := ⟨0⟩

def sun : Proposition := ⟨1⟩

def warmth : Proposition := ⟨2⟩

def rain : Proposition := ⟨3⟩

/-- On a holiday one or two of three things are so: there is sun, it is warm, there is no rain. -/
def constraint : Constraint :=
  (Constraint.between 1 2 [sun.positive, warmth.positive, rain.negative]).guarded holiday.positive

/-- What is said of some propositions. -/
def known (values : List (Proposition × Bool)) : Assignment := fun p => values.lookup p

def workday : Assignment := known [(holiday, false)]

def grey : Assignment := known [(sun, false)]

def cloudy : Assignment := known [(holiday, true), (sun, false)]

def cold : Assignment := known [(holiday, true), (sun, false), (warmth, false)]

def wet : Assignment := known [(holiday, true), (sun, false), (warmth, false), (rain, true)]

theorem isProper_constraint : constraint.IsProper where
  apart := by decide
  guard := by decide
  ordered := by decide

end Picnic

open Picnic

/-- A wet holiday is no picnic and a workday need not be one. A cold one must be dry. Without sun
both warmth and rain are open, and so is whether it is a holiday, if that is not known. -/
theorem Constraint.consequence_picnic :
    (constraint.consequence wet.value = .conflict ∧
      ∀ v : Valuation, v.Completes wet → constraint.holds v.satisfies = false) ∧
    (constraint.consequence workday.value = .settled ∧
      ∀ v : Valuation, v.Completes workday → constraint.holds v.satisfies = true) ∧
    (constraint.consequence cold.value = .force [rain.negative] ∧
      ∀ v : Valuation, v.Completes cold → constraint.holds v.satisfies = true →
        ∀ l ∈ [rain.negative], v.satisfies l = true) ∧
    ((∀ p ∈ constraint.propositions, (wet p).isSome = true) ∧
      ∀ v : Valuation, v.Completes wet → constraint.consequence wet.value =
        if constraint.holds v.satisfies then .settled else .conflict) ∧
    (constraint.IsProper ∧ ∀ a ∈ [grey, cloudy], constraint.consequence a.value = .undecided ∧
      ∀ l ∈ constraint.guard.toList ++ constraint.literals, a l.proposition = none →
        ∀ b, ∃ v : Valuation, v.Completes a ∧ v.satisfies l = b ∧
          constraint.holds v.satisfies = true) := by
  have conflict : constraint.consequence wet.value = .conflict := by decide
  have settled : constraint.consequence workday.value = .settled := by decide
  have forced : constraint.consequence cold.value = .force [rain.negative] := by decide
  have all_known : ∀ p ∈ constraint.propositions, (wet p).isSome = true := by decide
  have undecided : constraint.consequence grey.value = .undecided ∧
      constraint.consequence cloudy.value = .undecided := by decide
  obtain ⟨broken, -, -, total, -⟩ := consequence_strongest constraint wet
  obtain ⟨-, met, -⟩ := consequence_strongest constraint workday
  obtain ⟨-, -, dry, -⟩ := consequence_strongest constraint cold
  refine ⟨⟨conflict, broken conflict⟩, ⟨settled, met settled⟩, ⟨forced, dry _ forced⟩,
    ⟨all_known, total all_known⟩, isProper_constraint, ?_⟩
  intro a ha
  have open_still : constraint.consequence a.value = .undecided := by
    rcases List.mem_pair.mp ha with rfl | rfl
    · exact undecided.1
    · exact undecided.2
  obtain ⟨-, -, -, -, either⟩ := consequence_strongest constraint a
  exact ⟨open_still, either isProper_constraint open_still⟩

end Worldsmith
