import Worldsmith.Proofs.Logic.Completion
import Worldsmith.Proofs.Search.Soundness

/-!
# The order of constraints does not matter

What follows from a constraint goes on following while more becomes known. So whatever is forced on
the way is true in every assignment from which nothing more follows, and the first propagation,
where it comes to rest, ends with the least of these. The order in which constraints are examined
has no part in that.

## Main definitions

* `Assignment.Within` — an assignment gives propositions no other values than a larger one.

## Main statements

* `Constraint.forced_of_isQuiet` — what follows from a constraint is true wherever nothing more
  follows from it.
* `Problem.within_settle` — the first propagation stays within every quiet assignment.
* `Problem.settle_of_perm` — the same constraints in another order lead to the same assignment.
-/

namespace Worldsmith

namespace Assignment

variable {a b : Assignment} {l : Literal} {literals : List Literal}

/-- Whether a larger assignment gives all propositions the values that another gives them. -/
def Within (a b : Assignment) : Prop := ∀ p x, a p = some x → b p = some x

theorem value_eq_some_true_iff : a.value l = some true ↔ a l.proposition = some l.positive := by
  simp [value, Literal.evaluate]

theorem value_negate : a.value l.negate = (a.value l).map (!·) := by
  simp only [value, Literal.evaluate, Literal.negate, Option.map_map]
  congr 1
  funext x
  cases x <;> cases l.positive <;> rfl

theorem Within.value (h : a.Within b) {x : Bool} (known : a.value l = some x) :
    b.value l = some x := by
  obtain ⟨y, hy, rfl⟩ := Option.map_eq_some_iff.mp known
  simp [Assignment.value, h _ _ hy, Literal.evaluate]

/-- What is true of more is what was true already, and what has become true of the rest. -/
theorem Within.truths_eq (h : a.Within b) (literals : List Literal) :
    b.truths literals = a.truths literals + b.truths (a.unknown literals) := by
  simp only [truths, unknown]
  induction literals with
  | nil => rfl
  | cons l rest ih =>
    rw [List.countP_cons, List.countP_cons, List.filter_cons, ih]
    cases known : a.value l with
    | none => simp only [Option.isNone_none, if_true, List.countP_cons]; simp; omega
    | some x => rw [h.value known]; cases x <;> simp; omega

theorem Within.unknown_eq (h : a.Within b) (literals : List Literal) :
    b.unknown literals = b.unknown (a.unknown literals) := by
  simp only [unknown, List.filter_filter]
  apply List.filter_congr
  intro l _
  cases known : a.value l with
  | none => simp
  | some x => simp [h.value known]

theorem truths_add_length_unknown_le (a : Assignment) (literals : List Literal) :
    a.truths literals + (a.unknown literals).length ≤ literals.length := by
  simp only [truths, unknown]
  induction literals with
  | nil => simp
  | cons l rest ih =>
    rw [List.countP_cons, List.filter_cons, List.length_cons]
    cases a.value l with
    | none => simp; omega
    | some x => cases x <;> simp <;> omega

end Assignment

/-! ## What goes on following -/

namespace Constraint

variable {constraint : Constraint} {a b : Assignment}

/-- Bounds that cannot be met any more cannot be met later either. -/
theorem isBroken_of_within (within : a.Within b)
    (broken : constraint.isBroken (a.truths constraint.literals)
      (a.unknown constraint.literals).length = true) :
    constraint.isBroken (b.truths constraint.literals) (b.unknown constraint.literals).length =
      true := by
  have truths := within.truths_eq constraint.literals
  have rest := b.truths_add_length_unknown_le (a.unknown constraint.literals)
  rw [← within.unknown_eq] at rest
  rw [isBroken_iff] at broken ⊢
  omega

/-- Where nothing follows the bounds can be met, and there is room on both sides unless everything
is known. -/
theorem room_of_isQuiet (quiet : (constraint.unguarded (a.truths constraint.literals)
      (a.unknown constraint.literals)).isQuiet = true) :
    (a.truths constraint.literals ≤ constraint.high ∧
      constraint.low ≤ a.truths constraint.literals + (a.unknown constraint.literals).length) ∧
    (a.unknown constraint.literals = [] ∨ a.truths constraint.literals ≠ constraint.high ∧
      a.truths constraint.literals + (a.unknown constraint.literals).length ≠ constraint.low) := by
  unfold unguarded at quiet
  split_ifs at quiet with broken none full tight
  · cases quiet
  · rw [isBroken_iff] at broken
    exact ⟨by omega, .inl (List.isEmpty_iff.mp none)⟩
  · cases quiet
  · cases quiet
  · rw [isBroken_iff] at broken
    exact ⟨by omega, .inr ⟨full, tight⟩⟩

/-- What follows where the guard is true goes on following. -/
theorem forced_of_isQuiet_unguarded (within : a.Within b)
    (quiet : (constraint.unguarded (b.truths constraint.literals)
      (b.unknown constraint.literals)).isQuiet = true) :
    constraint.unguarded (a.truths constraint.literals) (a.unknown constraint.literals) ≠
        .conflict ∧
      ∀ literals, constraint.unguarded (a.truths constraint.literals)
        (a.unknown constraint.literals) = .force literals →
          ∀ l ∈ literals, b.value l = some true := by
  obtain ⟨bounds, room⟩ := room_of_isQuiet quiet
  have truths := within.truths_eq constraint.literals
  have rest := b.truths_add_length_unknown_le (a.unknown constraint.literals)
  rw [← within.unknown_eq] at rest
  -- Where everything is known, so is what had no value before.
  have known (all : b.unknown constraint.literals = []) :
      ∀ l ∈ a.unknown constraint.literals, b.value l ≠ none := by
    intro l hl none
    have open_still : l ∈ b.unknown constraint.literals := by
      rw [within.unknown_eq]
      exact List.mem_filter.mpr ⟨hl, by simp [none]⟩
    simp [all] at open_still
  unfold unguarded
  split_ifs with broken none full tight
  · have broken' := isBroken_of_within within broken
    rw [isBroken_iff] at broken'
    omega
  · exact ⟨by simp, by simp⟩
  · refine ⟨by simp, ?_⟩
    rintro _ ⟨⟩ l hl
    obtain ⟨m, hm, rfl⟩ := List.mem_map.mp hl
    have all : b.unknown constraint.literals = [] := by
      rcases room with all | room
      · exact all
      · omega
    have none_true : b.truths (a.unknown constraint.literals) = 0 := by omega
    have isFalse := List.countP_eq_zero.mp none_true m hm
    have isKnown := known all m hm
    rw [Assignment.value_negate]
    cases value : b.value m with
    | none => exact absurd value isKnown
    | some x => cases x <;> simp_all
  · refine ⟨by simp, ?_⟩
    rintro _ ⟨⟩ l hl
    have all : b.unknown constraint.literals = [] := by
      rcases room with all | room
      · exact all
      · omega
    have all_true : b.truths (a.unknown constraint.literals) =
        (a.unknown constraint.literals).length := by
      rw [all] at bounds rest
      simp only [List.length_nil] at bounds rest
      omega
    simpa using List.countP_eq_length.mp all_true l hl
  · exact ⟨by simp, by simp⟩

/-- Wherever nothing follows from a constraint, what followed from it when less was known is true,
and that was no conflict. -/
theorem forced_of_isQuiet (within : a.Within b)
    (quiet : (constraint.consequence b.value).isQuiet = true) :
    constraint.consequence a.value ≠ .conflict ∧
      ∀ literals, constraint.consequence a.value = .force literals →
        ∀ l ∈ literals, b.value l = some true := by
  rcases constraint.guard_cases a with active | ⟨guard, guarded, refused | unassigned⟩
  · rw [consequence_of_guard active]
    rw [consequence_of_guard fun guard mem => within.value (active guard mem)] at quiet
    exact forced_of_isQuiet_unguarded within quiet
  · rw [consequence_of_refused guarded refused]
    exact ⟨by simp, by simp⟩
  · rw [consequence_of_open guarded unassigned]
    split_ifs with broken
    · refine ⟨by simp, ?_⟩
      rintro _ ⟨⟩ l hl
      obtain rfl := List.mem_singleton.mp hl
      have broken' := isBroken_of_within within broken
      -- Only a false guard makes good for bounds that cannot be met.
      cases value : b.value guard with
      | none => simp [consequence_of_open guarded value, broken', Consequence.isQuiet] at quiet
      | some x =>
        cases x with
        | true =>
          rw [consequence_of_guard (by simpa [guarded] using value)] at quiet
          obtain ⟨bounds, -⟩ := room_of_isQuiet quiet
          rw [isBroken_iff] at broken'
          omega
        | false => simp [Assignment.value_negate, value]
    · exact ⟨by simp, by simp⟩

end Constraint

/-! ## Propagation stays within -/

variable {trail trail' : Trail} {b : Assignment} {constraints : List Constraint}

namespace Assignment

theorem within_blank (b : Assignment) (count : Nat) : Within (Trail.blank count).at? b := by
  intro p x known
  simp [Trail.at?_blank] at known

theorem Within.assign {l : Literal} (h : Within trail.at? b) (fresh : trail.Open l.proposition)
    (isTrue : b.value l = some true) : Within (trail.assign l).at? b := by
  intro p x known
  rw [Trail.at?_assign fresh] at known
  split_ifs at known with same
  · rw [same, ← known]
    exact value_eq_some_true_iff.mp isTrue
  · exact h p x known

end Assignment

/-- That a trail is within an assignment from which nothing follows lasts. -/
theorem lasts_within (quiet : ∀ c ∈ constraints, (c.consequence b.value).isQuiet = true) :
    Lasts constraints (b.value · = some true) (Assignment.Within ·.at? b) := by
  constructor
  · intro trail l within isTrue refused
    have isFalse := within.value refused
    simp [isTrue] at isFalse
  · exact fun within isTrue fresh => within.assign fresh isTrue
  · exact fun within mem => (Constraint.forced_of_isQuiet within (quiet _ mem)).1
  · exact fun within mem => (Constraint.forced_of_isQuiet within (quiet _ mem)).2 _

/-- Trails of one size that are within each other hold the same values. -/
theorem Trail.values_eq_of_within (size : trail.values.size = trail'.values.size)
    (h : Assignment.Within trail.at? trail'.at?) (g : Assignment.Within trail'.at? trail.at?) :
    trail.values = trail'.values := by
  refine Array.ext size fun i lt lt' => ?_
  have here : trail.at? ⟨i⟩ = trail.values[i] := by simp [at?, lt]
  have there : trail'.at? ⟨i⟩ = trail'.values[i] := by simp [at?, lt']
  rw [← here, ← there]
  refine Option.ext fun x => ⟨?_, ?_⟩
  · exact h ⟨i⟩ x
  · exact g ⟨i⟩ x

namespace Problem

variable {problem other : Problem} {budget budget' : Nat}

/-- The first propagation stays within every assignment from which nothing follows, and if there is
one it meets no conflict. -/
theorem within_settle (h : problem.Scoped)
    (quiet : ∀ c ∈ problem.constraints.toList, (c.consequence b.value).isQuiet = true)
    (budget : Nat) : (problem.settle budget).verdict ≠ .conflict ∧
      Assignment.Within (problem.settle budget).trail.at? b := by
  have index := h.indexes
  rw [← size_blank problem.size] at index
  exact (lasts_within quiet).propagate index budget [] (fun _ => id) (b.within_blank _)

theorem size_settle (h : problem.Scoped) (budget : Nat) :
    (problem.settle budget).trail.values.size = problem.size := by
  have index := h.indexes
  rw [← size_blank problem.size] at index
  exact (grows_propagate index budget [] (fun _ => id)).size_eq.trans (size_blank _)

/-- Where the first propagation comes to rest nothing follows from any constraint. -/
theorem quietOn_settle (h : problem.Scoped) (rest : (problem.settle budget).verdict = .quiet) :
    (problem.settle budget).trail.QuietOn problem.constraints.toList := by
  have index := h.indexes
  rw [← size_blank problem.size] at index
  exact quietOn_propagate index (fun _ => id) (fun c hc => .inr (.inl hc)) rest

/-- What one order of constraints leads to bounds what another leads to. -/
theorem within_settle_of_perm (h : problem.Scoped) (h' : other.Scoped)
    (perm : problem.constraints.toList.Perm other.constraints.toList)
    (rest : (problem.settle budget).verdict = .quiet) (budget' : Nat) :
    (other.settle budget').verdict ≠ .conflict ∧
      Assignment.Within (other.settle budget').trail.at? (problem.settle budget).trail.at? := by
  refine within_settle h' ?_ budget'
  intro c hc
  rw [← Trail.value_eq]
  exact quietOn_settle h rest c (perm.mem_iff.mpr hc)

/-- Two problems with the same propositions and the same constraints, in whatever order, come to the
same after the first propagation, if neither runs out of steps: there is a conflict in both, or
both end with the same values. -/
theorem settle_of_perm (built : problem.Built) (built' : other.Built)
    (same : problem.propositions = other.propositions)
    (perm : problem.constraints.toList.Perm other.constraints.toList)
    (enough : (problem.settle budget).verdict ≠ .exhausted)
    (enough' : (other.settle budget').verdict ≠ .exhausted) :
    ((problem.settle budget).verdict = .conflict ∧ (other.settle budget').verdict = .conflict) ∨
      (problem.settle budget).verdict = .quiet ∧ (other.settle budget').verdict = .quiet ∧
        (problem.settle budget).trail.values = (other.settle budget').trail.values := by
  have cases {problem : Problem} {budget : Nat}
      (enough : (problem.settle budget).verdict ≠ .exhausted) :
      (problem.settle budget).verdict = .quiet ∨ (problem.settle budget).verdict = .conflict := by
    cases verdict : (problem.settle budget).verdict with
    | quiet => exact .inl rfl
    | conflict => exact .inr rfl
    | exhausted => exact absurd verdict enough
  rcases cases enough with quiet | conflict
  · obtain ⟨clear, within⟩ :=
      within_settle_of_perm built.scoped built'.scoped perm quiet budget'
    have quiet' := (cases enough').resolve_right clear
    obtain ⟨-, within'⟩ :=
      within_settle_of_perm built'.scoped built.scoped perm.symm quiet' budget
    have size : problem.size = other.size := by
      simpa [propositions] using congrArg List.length same
    refine .inr ⟨quiet, quiet', Trail.values_eq_of_within ?_ within' within⟩
    rw [size_settle built.scoped, size_settle built'.scoped, size]
  · rcases cases enough' with quiet' | conflict'
    · have clear := (within_settle_of_perm built'.scoped built.scoped perm.symm quiet' budget).1
      exact absurd conflict clear
    · exact .inl ⟨conflict, conflict'⟩

/-! ## A forecast -/

/-- There is sun, and rain if there is sun. -/
def sunFirst : Problem := (sunAndRain.assert sun.positive).implies sun.positive rain.positive

/-- The same told the other way round. -/
def sunLast : Problem := (sunAndRain.implies sun.positive rain.positive).assert sun.positive

theorem built_sunFirst : sunFirst.Built := by
  have built : sunAndRain.Built := (Built.empty.proposition "sun").proposition "rain"
  refine (built.clause ?_).implies ?_ ?_
  · simp [Proposition.positive, sun, has_of_lt_two]
  · exact has_of_lt_two (by decide)
  · exact has_of_lt_two (by decide)

theorem built_sunLast : sunLast.Built := by
  have built : sunAndRain.Built := (Built.empty.proposition "sun").proposition "rain"
  refine (built.implies ?_ ?_).clause ?_
  · exact has_of_lt_two (by decide)
  · exact has_of_lt_two (by decide)
  · intro l hl
    rw [List.mem_singleton.mp hl]
    exact has_of_lt_two (by decide)

theorem settle_sunFirst :
    sunFirst.settle 20 = ⟨.quiet, ⟨#[some true, some true], #[sun, rain]⟩, 15⟩ := by
  have size : sunFirst.size = 2 := congrArg Array.size names_sunAndRain
  rw [settle, occurrences, size]
  cbv

theorem settle_sunLast :
    sunLast.settle 20 = ⟨.quiet, ⟨#[some true, some true], #[sun, rain]⟩, 15⟩ := by
  have size : sunLast.size = 2 := congrArg Array.size names_sunAndRain
  rw [settle, occurrences, size]
  cbv

/-- Whether the sun is told of before or after what it brings, in the end there are both. -/
theorem settle_forecast :
    sunFirst.constraints.toList.Perm sunLast.constraints.toList ∧
      sunFirst.constraints.toList ≠ sunLast.constraints.toList ∧
      (sunFirst.settle 20).trail.values = (sunLast.settle 20).trail.values := by
  have same : sunFirst.propositions = sunLast.propositions := rfl
  have perm : sunFirst.constraints.toList.Perm sunLast.constraints.toList := by decide
  have enough : (sunFirst.settle 20).verdict ≠ .exhausted := by simp [settle_sunFirst]
  have enough' : (sunLast.settle 20).verdict ≠ .exhausted := by simp [settle_sunLast]
  rcases settle_of_perm built_sunFirst built_sunLast same perm enough enough' with
    ⟨conflict, -⟩ | ⟨-, -, values⟩
  · simp [settle_sunFirst] at conflict
  · exact ⟨perm, by decide, values⟩

end Problem

end Worldsmith
