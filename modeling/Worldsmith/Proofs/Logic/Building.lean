import Mathlib.Data.List.Basic
import Mathlib.Tactic.Common
import Worldsmith.Logic.Problem

/-!
# Building problems

A problem is built by asking for propositions and adding constraints on them and variables. Nothing
is taken back on the way, and everything in a built problem is about its own propositions.

## Main definitions

* `Problem.Built` — problems that the operations lead to when they are only given propositions of
  the problem itself.
* `Problem.Extends` — the names, constraints and variables of one problem are also those of a later
  one.
* `Problem.Scoped` — constraints and variables are about the problem's own propositions.
-/

namespace Worldsmith

namespace Problem

variable {problem later : Problem} {p : Proposition} {name : String}

/-- Whether a proposition is one of the problem's own. -/
def Has (problem : Problem) (p : Proposition) : Prop := p.index < problem.size

theorem has_iff : problem.Has p ↔ ∃ name, problem.name? p = some name := by
  simp [Has, name?, size, NameTable.size, Array.getElem?_eq_some_iff]

theorem has_of_name? (h : problem.name? p = some name) : problem.Has p := has_iff.mpr ⟨name, h⟩

theorem find?_eq_some_iff : problem.find? name = some p ↔ problem.name? p = some name := by
  obtain ⟨i⟩ := p
  rw [find?, Option.map_eq_some_iff, name?]
  simp [NameTable.find?_eq_some_iff]

/-- Different propositions have different names. -/
theorem eq_of_name? {q : Proposition} (hp : problem.name? p = some name)
    (hq : problem.name? q = some name) : p = q := by
  rw [← find?_eq_some_iff] at hp hq
  exact Option.some.inj (hp.symm.trans hq)

/-- Problems that come about by asking for propositions and adding constraints and variables. -/
inductive Built : Problem → Prop where
  | empty : Built .empty
  | proposition {problem : Problem} (name : String) (built : Built problem) :
      Built (problem.proposition name).2
  | setPrior {problem : Problem} (p : Proposition) (probability : Float) (built : Built problem) :
      Built (problem.setPrior p probability)
  | add {problem : Problem} (constraint : Constraint) (built : Built problem)
      (own : ∀ p ∈ constraint.propositions, problem.Has p) : Built (problem.add constraint)
  | rangeVariable {problem : Problem} (name : String) (low high : Float) (guard : Literal)
      (built : Built problem) (own : problem.Has guard.proposition) :
      Built (problem.rangeVariable name low high guard).2
  | menuVariable {problem : Problem} (name : String) (values : List String) (guard : Literal)
      (built : Built problem) (own : problem.Has guard.proposition) :
      Built (problem.menuVariable name values guard).2
  | restrictMenu {problem : Problem} (index : Nat) (conditions : List Literal)
      (allowed : List String) (built : Built problem)
      (own : ∀ l ∈ conditions, problem.Has l.proposition) :
      Built (problem.restrictMenu index conditions allowed)

/-! ## Growing -/

/-- The names, constraints and variables of a problem are also those of a later one. -/
structure Extends (problem later : Problem) : Prop where
  name?_eq_some : ∀ {p : Proposition} {name : String},
    problem.name? p = some name → later.name? p = some name
  mem_constraints : ∀ {constraint : Constraint},
    constraint ∈ problem.constraints.toList → constraint ∈ later.constraints.toList
  unknown?_eq_some : ∀ {index : Nat} {v : Variable},
    problem.unknowns[index]? = some v → later.unknowns[index]? = some v

theorem Extends.refl (problem : Problem) : problem.Extends problem := ⟨id, id, id⟩

theorem Extends.trans {last : Problem} (h : problem.Extends later) (g : later.Extends last) :
    problem.Extends last :=
  ⟨fun known => g.name?_eq_some (h.name?_eq_some known),
    fun mem => g.mem_constraints (h.mem_constraints mem),
    fun known => g.unknown?_eq_some (h.unknown?_eq_some known)⟩

theorem Extends.has (h : problem.Extends later) (own : problem.Has p) : later.Has p := by
  obtain ⟨name, known⟩ := has_iff.mp own
  exact has_of_name? (h.name?_eq_some known)

theorem name?_proposition (problem : Problem) (name : String) :
    (problem.proposition name).2.name? (problem.proposition name).1 = some name :=
  problem.names.getElem?_intern_self name

theorem extends_proposition (problem : Problem) (name : String) :
    problem.Extends (problem.proposition name).2 :=
  ⟨fun known => problem.names.getElem?_intern_of_eq_some name known, id, id⟩

theorem extends_setPrior (problem : Problem) (p : Proposition) (probability : Float) :
    problem.Extends (problem.setPrior p probability) := ⟨id, id, id⟩

theorem mem_constraints_add {constraint other : Constraint} :
    other ∈ (problem.add constraint).constraints.toList ↔
      other ∈ problem.constraints.toList ∨ other = constraint := by
  simp [add]

theorem extends_add (problem : Problem) (constraint : Constraint) :
    problem.Extends (problem.add constraint) :=
  ⟨id, fun mem => mem_constraints_add.mpr (.inl mem), id⟩

theorem unknown?_addVariable (problem : Problem) (v : Variable) :
    (problem.addVariable v).2.unknowns[(problem.addVariable v).1]? = some v := by
  simp [addVariable]

theorem extends_addVariable (problem : Problem) (v : Variable) :
    problem.Extends (problem.addVariable v).2 := by
  refine ⟨id, id, fun {index x} known => ?_⟩
  have lt : index < problem.unknowns.size := (Array.getElem?_eq_some_iff.mp known).1
  simpa [addVariable, Array.getElem?_push, Nat.ne_of_lt lt] using known

theorem extends_rangeVariable (problem : Problem) (name : String) (low high : Float)
    (guard : Literal) : problem.Extends (problem.rangeVariable name low high guard).2 :=
  extends_addVariable problem _

theorem extends_choiceNames (problem : Problem) (name : String) (values : List String) :
    problem.Extends (problem.choiceNames name values).2 := by
  induction values generalizing problem with
  | nil => exact .refl problem
  | cons value rest ih => exact (extends_proposition _ _).trans (ih _)

/-- The propositions of a menu are named after its values. -/
theorem name?_choiceNames (problem : Problem) (name : String) (values : List String) :
    List.Forall₂ (fun p value => (problem.choiceNames name values).2.name? p =
      some (name ++ "=" ++ value)) (problem.choiceNames name values).1 values := by
  induction values generalizing problem with
  | nil => exact .nil
  | cons value rest ih =>
    exact .cons ((extends_choiceNames _ name rest).name?_eq_some (name?_proposition _ _)) (ih _)

theorem extends_guardChoices (problem : Problem) (prior : Float) (guard : Literal)
    (choices : List Proposition) :
    problem.Extends (problem.guardChoices prior guard choices) := by
  induction choices generalizing problem with
  | nil => exact .refl problem
  | cons choice rest ih => exact ((extends_setPrior _ _ _).trans (extends_add _ _)).trans (ih _)

theorem extends_menuVariable (problem : Problem) (name : String) (values : List String)
    (guard : Literal) : problem.Extends (problem.menuVariable name values guard).2 :=
  (extends_choiceNames problem name values).trans <|
    (extends_guardChoices _ _ guard _).trans <|
      (extends_add _ _).trans (extends_addVariable _ _)

theorem unknown?_menuVariable (problem : Problem) (name : String) (values : List String)
    (guard : Literal) : (problem.menuVariable name values guard).2.unknowns[
      (problem.menuVariable name values guard).1]? =
        some ⟨name, guard, .menu values (problem.choiceNames name values).1⟩ :=
  unknown?_addVariable _ _

/-- What is offered on a menu stays the same. -/
theorem Extends.menu?_eq (h : problem.Extends later) {index : Nat} {v : Variable}
    (known : problem.unknowns[index]? = some v) : later.menu? index = problem.menu? index := by
  rw [menu?, menu?, known, h.unknown?_eq_some known]

theorem extends_restrictMenu (problem : Problem) (index : Nat) (conditions : List Literal)
    (allowed : List String) : problem.Extends (problem.restrictMenu index conditions allowed) := by
  unfold restrictMenu
  split
  · exact .refl problem
  · exact extends_add _ _

/-! ## Scope -/

/-- Everything in a problem is about the problem's own propositions. -/
structure Scoped (problem : Problem) : Prop where
  constraints : ∀ constraint ∈ problem.constraints.toList, ∀ p ∈ constraint.propositions,
    problem.Has p
  unknowns : ∀ v ∈ problem.unknowns.toList, ∀ p ∈ v.propositions, problem.Has p

theorem Scoped.proposition (h : problem.Scoped) (name : String) :
    (problem.proposition name).2.Scoped where
  constraints constraint mem p hp :=
    (extends_proposition problem name).has (h.constraints constraint mem p hp)
  unknowns v mem p hp := (extends_proposition problem name).has (h.unknowns v mem p hp)

theorem Scoped.setPrior (h : problem.Scoped) (p : Proposition) (probability : Float) :
    (problem.setPrior p probability).Scoped := ⟨h.constraints, h.unknowns⟩

theorem Scoped.add (h : problem.Scoped) {constraint : Constraint}
    (own : ∀ p ∈ constraint.propositions, problem.Has p) : (problem.add constraint).Scoped where
  constraints other mem p hp := by
    rcases mem_constraints_add.mp mem with mem | rfl
    · exact h.constraints other mem p hp
    · exact own p hp
  unknowns := h.unknowns

theorem Scoped.addVariable (h : problem.Scoped) {v : Variable}
    (own : ∀ p ∈ v.propositions, problem.Has p) : (problem.addVariable v).2.Scoped where
  constraints := h.constraints
  unknowns other mem p hp := by
    rcases Array.mem_push.mp (Array.mem_toList_iff.mp mem) with mem | rfl
    · exact h.unknowns other (Array.mem_toList_iff.mpr mem) p hp
    · exact own p hp

theorem mem_propositions_clause {literals : List Literal} :
    p ∈ (Constraint.clause literals.eraseDups).propositions ↔
      ∃ l ∈ literals, l.proposition = p := by
  simp [Constraint.propositions, Constraint.clause, Constraint.between]

theorem mem_propositions_between {low high : Nat} {literals : List Literal} :
    p ∈ (Constraint.between low high literals.eraseDups).propositions ↔
      ∃ l ∈ literals, l.proposition = p := by
  simp [Constraint.propositions, Constraint.between]

theorem mem_propositions_guarded {low high : Nat} {literals : List Literal} {guard : Literal} :
    p ∈ ((Constraint.between low high literals.eraseDups).guarded guard).propositions ↔
      p = guard.proposition ∨ ∃ l ∈ literals, l.proposition = p := by
  simp [Constraint.propositions, Constraint.between, Constraint.guarded]

theorem Scoped.choiceNames (h : problem.Scoped) (name : String) (values : List String) :
    (problem.choiceNames name values).2.Scoped ∧
      ∀ p ∈ (problem.choiceNames name values).1, (problem.choiceNames name values).2.Has p := by
  induction values generalizing problem with
  | nil => exact ⟨h, by simp [Problem.choiceNames]⟩
  | cons value rest ih =>
    obtain ⟨inside, own⟩ := ih (h.proposition (name ++ "=" ++ value))
    refine ⟨inside, ?_⟩
    intro p hp
    rcases List.mem_cons.mp hp with rfl | hp
    · exact (extends_choiceNames _ name rest).has (has_of_name? (name?_proposition _ _))
    · exact own p hp

theorem Scoped.guardChoices (h : problem.Scoped) (prior : Float) {guard : Literal}
    (own : problem.Has guard.proposition) {choices : List Proposition}
    (owned : ∀ p ∈ choices, problem.Has p) :
    (problem.guardChoices prior guard choices).Scoped := by
  induction choices generalizing problem with
  | nil => exact h
  | cons choice rest ih =>
    refine ih (Scoped.add (h.setPrior choice prior) ?_) own fun p hp =>
      owned p (List.mem_cons_of_mem _ hp)
    intro p hp
    obtain ⟨l, hl, rfl⟩ := mem_propositions_clause.mp hp
    rcases List.mem_pair.mp hl with rfl | rfl
    · exact owned choice List.mem_cons_self
    · exact own

theorem Scoped.menuVariable (h : problem.Scoped) (name : String) (values : List String)
    {guard : Literal} (own : problem.Has guard.proposition) :
    (problem.menuVariable name values guard).2.Scoped := by
  obtain ⟨inside, owned⟩ := h.choiceNames name values
  have own := (extends_choiceNames problem name values).has own
  refine Scoped.addVariable (Scoped.add (inside.guardChoices _ own owned) ?_) ?_
  · intro p hp
    rcases mem_propositions_guarded.mp hp with rfl | ⟨l, hl, rfl⟩
    · exact (extends_guardChoices _ _ _ _).has own
    · obtain ⟨choice, hc, rfl⟩ := List.mem_map.mp hl
      exact (extends_guardChoices _ _ _ _).has (owned choice hc)
  · intro p hp
    refine ((extends_guardChoices _ _ _ _).trans (extends_add _ _)).has ?_
    rcases List.mem_cons.mp hp with rfl | hp
    · exact own
    · exact owned p hp

/-- A menu is about the problem's own propositions. -/
theorem Scoped.menu? (h : problem.Scoped) {index : Nat} {guard : Literal}
    {choices : List (String × Proposition)} (found : problem.menu? index = some (guard, choices)) :
    problem.Has guard.proposition ∧ ∀ choice ∈ choices, problem.Has choice.2 := by
  unfold Problem.menu? at found
  split at found
  case h_1 name guard' values choices' known =>
    obtain ⟨rfl, rfl⟩ := Prod.mk.inj (Option.some.inj found)
    have mem := h.unknowns _ (Array.mem_toList_iff.mpr (Array.mem_of_getElem? known))
    refine ⟨mem _ List.mem_cons_self, ?_⟩
    rintro ⟨value, choice⟩ hc
    exact mem _ (List.mem_cons_of_mem _ (List.of_mem_zip hc).2)
  · simp at found

theorem Scoped.menuChoice? (h : problem.Scoped) {index : Nat} {value : String}
    (found : problem.menuChoice? index value = some p) : problem.Has p := by
  obtain ⟨⟨guard, choices⟩, menu, chosen⟩ := Option.bind_eq_some_iff.mp found
  obtain ⟨choice, first, rfl⟩ := Option.map_eq_some_iff.mp chosen
  exact (h.menu? menu).2 choice (List.mem_of_find?_eq_some first)

theorem Scoped.restrictMenu (h : problem.Scoped) (index : Nat) {conditions : List Literal}
    (allowed : List String) (own : ∀ l ∈ conditions, problem.Has l.proposition) :
    (problem.restrictMenu index conditions allowed).Scoped := by
  unfold Problem.restrictMenu
  split
  · exact h
  case h_2 guard choices found =>
    obtain ⟨guarded, chosen⟩ := h.menu? found
    refine h.add ?_
    intro p hp
    obtain ⟨l, hl, rfl⟩ := mem_propositions_clause.mp hp
    simp only [List.mem_cons, List.mem_append, List.mem_map, List.mem_filter] at hl
    rcases hl with (rfl | ⟨l, hl, rfl⟩) | ⟨choice, ⟨hc, _⟩, rfl⟩
    · exact guarded
    · exact own l hl
    · exact chosen choice hc

/-- A built problem is about its own propositions. -/
theorem Built.scoped (built : Built problem) : problem.Scoped := by
  induction built with
  | empty => exact ⟨by simp [Problem.empty], by simp [Problem.empty]⟩
  | proposition name _ ih => exact ih.proposition name
  | setPrior p probability _ ih => exact ih.setPrior p probability
  | add constraint _ own ih => exact ih.add own
  | rangeVariable name low high guard _ own ih =>
    refine Scoped.addVariable ih ?_
    intro p hp
    rwa [List.mem_singleton.mp hp]
  | menuVariable name values guard _ own ih => exact ih.menuVariable name values own
  | restrictMenu index conditions allowed _ own ih => exact ih.restrictMenu index allowed own

/-! ## The other ways of adding constraints -/

theorem Built.clause (built : Built problem) {literals : List Literal}
    (own : ∀ l ∈ literals, problem.Has l.proposition) : Built (problem.clause literals) := by
  refine .add _ built ?_
  intro p hp
  obtain ⟨l, hl, rfl⟩ := mem_propositions_clause.mp hp
  exact own l hl

theorem Built.implies (built : Built problem) {premise conclusion : Literal}
    (own : problem.Has premise.proposition) (own' : problem.Has conclusion.proposition) :
    Built (problem.implies premise conclusion) := by
  refine built.clause ?_
  intro l hl
  rcases List.mem_pair.mp hl with rfl | rfl
  · exact own
  · exact own'

theorem Built.quantify (built : Built problem) (low high : Nat) {literals : List Literal}
    (own : ∀ l ∈ literals, problem.Has l.proposition) :
    Built (problem.quantify low high literals) := by
  refine .add _ built ?_
  intro p hp
  obtain ⟨l, hl, rfl⟩ := mem_propositions_between.mp hp
  exact own l hl

theorem Built.atMost (built : Built problem) (count : Nat) {literals : List Literal}
    (own : ∀ l ∈ literals, problem.Has l.proposition) : Built (problem.atMost count literals) :=
  built.quantify 0 count own

theorem Built.unique (built : Built problem) {literals : List Literal}
    (own : ∀ l ∈ literals, problem.Has l.proposition) : Built (problem.unique literals) :=
  built.quantify 1 1 own

theorem Built.quantifyIf (built : Built problem) {guard : Literal} (low high : Nat)
    {literals : List Literal} (own : problem.Has guard.proposition)
    (owned : ∀ l ∈ literals, problem.Has l.proposition) :
    Built (problem.quantifyIf guard low high literals) := by
  refine .add _ built ?_
  intro p hp
  rcases mem_propositions_guarded.mp hp with rfl | ⟨l, hl, rfl⟩
  · exact own
  · exact owned l hl

/-! ## Known and new names -/

/-- A new name gives a new proposition. -/
theorem proposition_of_notMem {names : Array String} (name : String)
    (known : problem.names.names = names) (h : name ∉ names) :
    (problem.proposition name).1 = ⟨names.size⟩ ∧
      (problem.proposition name).2.names.names = names.push name := by
  subst known
  obtain ⟨index, names⟩ := NameTable.intern_of_notMem h
  exact ⟨congrArg Proposition.mk index, names⟩

/-- A name that is known changes nothing. -/
theorem proposition_of_name? (sized : problem.priors.size = problem.size)
    (h : problem.name? p = some name) : problem.proposition name = (p, problem) := by
  have lt := has_of_name? h
  rw [Has, ← sized] at lt
  obtain ⟨names, priors, constraints, unknowns⟩ := problem
  have same : names.intern name = (p.index, names) := NameTable.intern_of_getElem? h
  simp only at lt
  simp [proposition, same, Nat.ne_of_lt lt]

/-- Every proposition that is made gets a prior. -/
theorem size_priors_proposition (sized : problem.priors.size = problem.size) (name : String) :
    (problem.proposition name).2.priors.size = (problem.proposition name).2.size := by
  by_cases known : ∃ p, problem.name? p = some name
  · obtain ⟨p, known⟩ := known
    rw [proposition_of_name? sized known]
    exact sized
  · have fresh : name ∉ problem.names.names := by
      intro mem
      obtain ⟨i, lt, same⟩ := Array.getElem_of_mem mem
      exact known ⟨⟨i⟩, by simp [name?, same, lt]⟩
    obtain ⟨index, names⟩ := proposition_of_notMem name rfl fresh
    obtain ⟨table, priors, constraints, unknowns⟩ := problem
    simp only [proposition, Proposition.mk.injEq, size, NameTable.size] at *
    rw [if_pos (by omega), Array.size_push, names, Array.size_push, sized]

/-- Asking for a name makes no other proposition. -/
theorem has_proposition (own : (problem.proposition name).2.Has p) :
    problem.Has p ∨ p = (problem.proposition name).1 := by
  obtain ⟨index⟩ := p
  by_cases known : name ∈ problem.names.names
  · obtain ⟨i, lt, same⟩ := Array.getElem_of_mem known
    have table : problem.names.intern name = (i, problem.names) :=
      NameTable.intern_of_getElem? (by simp [lt, same])
    obtain ⟨names, priors, constraints, unknowns⟩ := problem
    simp only [Has, size, proposition, table] at own ⊢
    exact .inl own
  · obtain ⟨new, names⟩ := proposition_of_notMem name rfl known
    rw [Has, size, NameTable.size, names, Array.size_push] at own
    rcases Nat.lt_succ_iff_lt_or_eq.mp own with lt | rfl
    · exact .inl lt
    · exact .inr new.symm

theorem has_choiceNames {values : List String}
    (own : (problem.choiceNames name values).2.Has p) : problem.Has p ∨
      ∃ value, (problem.choiceNames name values).2.name? p = some (name ++ "=" ++ value) := by
  induction values generalizing problem with
  | nil => exact .inl own
  | cons value rest ih =>
    rcases ih own with own | named
    · rcases has_proposition own with own | rfl
      · exact .inl own
      · exact .inr ⟨value, (extends_choiceNames _ name rest).name?_eq_some (name?_proposition _ _)⟩
    · exact .inr named

theorem names_guardChoices (problem : Problem) (prior : Float) (guard : Literal)
    (choices : List Proposition) :
    (problem.guardChoices prior guard choices).names = problem.names := by
  induction choices generalizing problem with
  | nil => rfl
  | cons choice rest ih => exact ih _

/-- All propositions that come with a menu are named after it and a value. -/
theorem has_menuVariable {values : List String} {guard : Literal}
    (own : (problem.menuVariable name values guard).2.Has p) : problem.Has p ∨
      ∃ value, (problem.menuVariable name values guard).2.name? p =
        some (name ++ "=" ++ value) := by
  have names : (problem.menuVariable name values guard).2.names =
      (problem.choiceNames name values).2.names := names_guardChoices _ _ _ _
  rw [name?, names]
  rw [Has, size, names] at own
  exact has_choiceNames own

/-- A restriction makes no propositions. -/
theorem has_restrictMenu {index : Nat} {conditions : List Literal} {allowed : List String}
    (own : (problem.restrictMenu index conditions allowed).Has p) : problem.Has p := by
  unfold restrictMenu at own
  split at own <;> exact own

/-! ## A small problem -/

def sunAndRain : Problem :=
  ((Problem.empty.proposition "sun").2.proposition "rain").2

def sun : Proposition := ⟨0⟩

def rain : Proposition := ⟨1⟩

/-- There is sun or rain but not both, and rain if there is sun. -/
def weather : Problem :=
  ((sunAndRain.clause [sun.positive, rain.positive]).implies sun.positive rain.positive).clause
    [sun.negative, rain.negative]

/-- The same with sun if there is rain, which there cannot be. -/
def impossibleWeather : Problem := weather.implies rain.positive sun.positive

theorem names_sunAndRain : sunAndRain.names.names = #["sun", "rain"] := by
  have none : Problem.empty.names.names = #[] := rfl
  have one := (proposition_of_notMem "sun" none (by simp)).2
  exact (proposition_of_notMem "rain" one (by simp)).2

theorem has_of_lt_two (lt : p.index < 2) : sunAndRain.Has p := by
  rw [Has, size, NameTable.size, names_sunAndRain]
  exact lt

theorem size_weather : weather.size = 2 := congrArg Array.size names_sunAndRain

theorem built_weather : weather.Built := by
  have built : sunAndRain.Built := (Built.empty.proposition "sun").proposition "rain"
  refine ((built.clause ?_).implies ?_ ?_).clause ?_
  · simp [Proposition.positive, sun, rain, has_of_lt_two]
  · exact has_of_lt_two (by decide)
  · exact has_of_lt_two (by decide)
  · simpa [Proposition.negative] using ⟨has_of_lt_two (by decide), has_of_lt_two (by decide)⟩

theorem built_impossibleWeather : impossibleWeather.Built :=
  built_weather.implies (has_of_lt_two (p := rain) (by decide))
    (has_of_lt_two (p := sun) (by decide))

end Problem

end Worldsmith
