import Worldsmith.Proofs.Lists
import Worldsmith.Proofs.Search.Soundness

/-!
# Menus in solutions

A menu has a proposition for each of its values. They are named after the values, each implies the
guard, and if the guard holds exactly one of them does. So the value that is read off first is the
only one whose proposition holds, and what is asserted of these propositions is what a solution
says of the menu.

## Main definitions

* `Problem.IsMenu` — all that is asked of the propositions of a menu is part of the problem.

## Main statements

* `Problem.Built.isMenu` — it is part of every built problem that has the menu.
* `Problem.IsMenu.existsUnique_choice` — if the guard holds so does exactly one choice.
* `Problem.Built.value?_eq_text_iff` — a solution has the value whose choice holds.
-/

namespace Worldsmith

namespace Problem

variable {problem later : Problem} {name : String} {guard : Literal} {values : List String}
  {choices : List Proposition} {index : Nat} {p q : Proposition} {value value' : String}

/-- Whether the propositions of a menu are named after its values, each implies the guard, and
exactly one of them holds if the guard does. -/
structure IsMenu (problem : Problem) (name : String) (guard : Literal) (values : List String)
    (choices : List Proposition) : Prop where
  names : List.Forall₂ (fun choice value => problem.name? choice = some (name ++ "=" ++ value))
    choices values
  guarded : ∀ choice ∈ choices,
    Constraint.clause [choice.negative, guard].eraseDups ∈ problem.constraints.toList
  unique : (Constraint.between 1 1 (choices.map Proposition.positive).eraseDups).guarded guard ∈
    problem.constraints.toList

theorem IsMenu.mono (menu : problem.IsMenu name guard values choices)
    (grows : problem.Extends later) : later.IsMenu name guard values choices where
  names := menu.names.imp fun _ _ known => grows.name?_eq_some known
  guarded choice mem := grows.mem_constraints (menu.guarded choice mem)
  unique := grows.mem_constraints menu.unique

/-! ## Making menus -/

theorem mem_constraints_guardChoices (problem : Problem) (prior : Float) (guard : Literal) :
    ∀ choice ∈ choices, Constraint.clause [choice.negative, guard].eraseDups ∈
      (problem.guardChoices prior guard choices).constraints.toList := by
  induction choices generalizing problem with
  | nil => simp
  | cons first rest ih =>
    intro choice mem
    rcases List.mem_cons.mp mem with rfl | mem
    · refine (extends_guardChoices _ prior guard rest).mem_constraints ?_
      exact mem_constraints_add.mpr (.inr rfl)
    · exact ih _ choice mem

theorem isMenu_menuVariable (problem : Problem) (name : String) (values : List String)
    (guard : Literal) : (problem.menuVariable name values guard).2.IsMenu name guard values
      (problem.choiceNames name values).1 := by
  have named := problem.name?_choiceNames name values
  unfold menuVariable
  generalize problem.choiceNames name values = made at named ⊢
  obtain ⟨choices, problem⟩ := made
  dsimp only at named ⊢
  generalize 1.0 / (max choices.length 1).toUInt64.toFloat = prior
  have guarded := extends_guardChoices problem prior guard choices
  have added := extends_add (problem.guardChoices prior guard choices)
    ((Constraint.between 1 1 (choices.map Proposition.positive).eraseDups).guarded guard)
  refine IsMenu.mono ⟨?_, ?_, ?_⟩ (extends_addVariable _ _)
  · exact named.imp fun _ _ known => (guarded.trans added).name?_eq_some known
  · intro choice mem
    exact added.mem_constraints (mem_constraints_guardChoices problem prior guard choice mem)
  · exact mem_constraints_add.mpr (.inr rfl)

/-! ## Menus of built problems -/

theorem unknowns_choiceNames (problem : Problem) (name : String) (values : List String) :
    (problem.choiceNames name values).2.unknowns = problem.unknowns := by
  induction values generalizing problem with
  | nil => rfl
  | cons value rest ih => exact ih _

theorem unknowns_guardChoices (problem : Problem) (prior : Float) (guard : Literal)
    (choices : List Proposition) :
    (problem.guardChoices prior guard choices).unknowns = problem.unknowns := by
  induction choices generalizing problem with
  | nil => rfl
  | cons choice rest ih => exact ih _

theorem unknowns_restrictMenu (problem : Problem) (index : Nat) (conditions : List Literal)
    (allowed : List String) :
    (problem.restrictMenu index conditions allowed).unknowns = problem.unknowns := by
  unfold restrictMenu
  split <;> rfl

theorem unknowns_menuVariable (problem : Problem) (name : String) (values : List String)
    (guard : Literal) : (problem.menuVariable name values guard).2.unknowns =
      problem.unknowns.push ⟨name, guard, .menu values (problem.choiceNames name values).1⟩ := by
  unfold menuVariable
  simp [addVariable, quantifyIf, add, unknowns_guardChoices, unknowns_choiceNames]

/-- Of one variable more the last is the new one, and the others were there before. -/
theorem eq_or_of_push {unknowns : Array Variable} {v w : Variable}
    (known : (unknowns.push v)[index]? = some w) : unknowns[index]? = some w ∨ w = v := by
  rw [Array.getElem?_push] at known
  split_ifs at known
  · exact .inr (Option.some.inj known).symm
  · exact .inl known

/-- Only `menuVariable` makes menus, and nothing is taken back. -/
theorem Built.isMenu (built : problem.Built)
    (known : problem.unknowns[index]? = some ⟨name, guard, .menu values choices⟩) :
    problem.IsMenu name guard values choices := by
  induction built with
  | empty => simp [Problem.empty] at known
  | @proposition problem other _ ih => exact (ih known).mono (extends_proposition problem other)
  | setPrior p probability _ ih => exact (ih known).mono (extends_setPrior _ p probability)
  | add constraint _ _ ih => exact (ih known).mono (extends_add _ constraint)
  | rangeVariable other low high condition _ _ ih =>
    rcases eq_or_of_push known with known | same
    · exact (ih known).mono (extends_rangeVariable _ other low high condition)
    · cases same
  | menuVariable other offered condition _ _ ih =>
    rw [unknowns_menuVariable] at known
    rcases eq_or_of_push known with known | same
    · exact (ih known).mono (extends_menuVariable _ other offered condition)
    · obtain ⟨rfl, rfl, domain⟩ := Variable.mk.inj same
      obtain ⟨rfl, rfl⟩ := Domain.menu.inj domain
      exact isMenu_menuVariable _ name values guard
  | restrictMenu i conditions allowed _ _ ih =>
    rw [unknowns_restrictMenu] at known
    exact (ih known).mono (extends_restrictMenu _ i conditions allowed)

/-! ## What a solution says of a menu -/

namespace IsMenu

variable (menu : problem.IsMenu name guard values choices)
include menu

/-- The proposition of a choice tells its value. -/
theorem value_eq (mem : (value, p) ∈ values.zip choices) (mem' : (value', p) ∈ values.zip choices) :
    value = value' := by
  obtain ⟨-, named⟩ := List.forall₂_iff_zip.mp menu.names.flip
  have same := Option.some.inj ((named mem).symm.trans (named mem'))
  have lists := congrArg String.toList same
  simp only [String.toList_append] at lists
  exact String.toList_inj.mp (List.append_cancel_left lists)

/-- The choice of a value is one of those whose values differ from it in case at most. -/
theorem exists_menuChoice?
    (known : problem.unknowns[index]? = some ⟨name, guard, .menu values choices⟩)
    (offered : ∃ choice ∈ values, Text.sameAscii choice value = true) :
    ∃ choice p, (choice, p) ∈ values.zip choices ∧ Text.sameAscii choice value = true ∧
      problem.menuChoice? index value = some p := by
  obtain ⟨choice, mem, same⟩ := offered
  rw [← List.map_fst_zip (Nat.le_of_eq menu.names.length_eq.symm)] at mem
  obtain ⟨⟨choice, p⟩, among, rfl⟩ := List.mem_map.mp mem
  have some_choice : ((values.zip choices).find? fun choice =>
      Text.sameAscii choice.1 value).isSome = true := List.find?_isSome.mpr ⟨_, among, same⟩
  obtain ⟨⟨first, q⟩, found⟩ := Option.isSome_iff_exists.mp some_choice
  refine ⟨first, q, List.mem_of_find?_eq_some found, ?_, ?_⟩
  · simpa using List.find?_some found
  · simp [menuChoice?, menu?, known, found]

variable {holds : Valuation} (met : problem.SatisfiedBy holds)
include met

theorem satisfies_guard (mem : p ∈ choices) (chosen : holds p = true) :
    holds.satisfies guard = true := by
  obtain ⟨l, hl, satisfied⟩ := Constraint.holds_clause_iff.mp (met _ (menu.guarded p mem))
  rcases List.mem_pair.mp (List.mem_eraseDups.mp hl) with rfl | rfl
  · simp [Valuation.satisfies, Proposition.negative, chosen] at satisfied
  · exact satisfied

/-- If the guard holds one choice does, and no other. -/
theorem existsUnique_choice (guarded : holds.satisfies guard = true) :
    ∃! p, p ∈ choices ∧ holds p = true := by
  obtain ⟨low, high⟩ := Constraint.holds_guarded_iff.mp (met _ menu.unique) guarded
  obtain ⟨l, ⟨mem, satisfied⟩, only⟩ :=
    countP_eraseDups_eq_one_iff.mp (Nat.le_antisymm high low)
  obtain ⟨p, among, rfl⟩ := List.mem_map.mp mem
  refine ⟨p, ⟨among, ?_⟩, ?_⟩
  · simpa [Valuation.satisfies, Proposition.positive] using satisfied
  · rintro q ⟨mem', chosen⟩
    have same := only q.positive ⟨List.mem_map_of_mem mem', by
      simp [Valuation.satisfies, Proposition.positive, chosen]⟩
    exact congrArg Literal.proposition same

/-- If a choice holds, its value is the first whose choice does. -/
theorem find?_eq (mem : (value, p) ∈ values.zip choices) (chosen : holds p = true) :
    ((values.zip choices).find? fun choice => holds choice.2).map Prod.fst = some value := by
  cases found : (values.zip choices).find? fun choice => holds choice.2 with
  | none => exact absurd chosen (by simpa using List.find?_eq_none.mp found _ mem)
  | some first =>
    obtain ⟨value', q⟩ := first
    have among := List.mem_of_find?_eq_some found
    have chosen' : holds q = true := by simpa using List.find?_some found
    have guarded := menu.satisfies_guard met (List.of_mem_zip mem).2 chosen
    obtain rfl := (menu.existsUnique_choice met guarded).unique ⟨(List.of_mem_zip mem).2, chosen⟩
      ⟨(List.of_mem_zip among).2, chosen'⟩
    rw [Option.map_some, menu.value_eq mem among]

end IsMenu

/-! ## The values that are drawn -/

/-- Each variable is drawn with what the source has come to. -/
theorem exists_draw {σ : Type} (holds : Literal → Bool) (number : Float → Float → σ → Float × σ)
    {unknowns : List Variable} {v : Variable} (known : unknowns[index]? = some v) (source : σ) :
    ∃ later, (drawValues holds number unknowns source).1[index]? =
      some (v.draw holds number later).1 := by
  induction unknowns generalizing index source with
  | nil => simp at known
  | cons first rest ih =>
    cases index with
    | zero =>
      obtain rfl := Option.some.inj known
      exact ⟨source, rfl⟩
    | succ index => exact ih known _

theorem draw_menu {σ : Type} (holds : Valuation) (number : Float → Float → σ → Float × σ)
    (source : σ) :
    (Variable.draw ⟨name, guard, .menu values choices⟩ holds.satisfies number source).1 =
      if holds.satisfies guard then
        (((values.zip choices).find? fun choice => holds choice.2).map Prod.fst).map .text
      else none := by
  have same : (fun choice : String × Proposition => holds.satisfies choice.2.positive) =
      fun choice => holds choice.2 := by
    funext choice
    simp [Valuation.satisfies, Proposition.positive]
  unfold Variable.draw
  split_ifs
  · simp [same, Function.comp_def]
  · rfl

section Solve

variable {σ : Type} {chooser : Chooser σ} {budget : Nat} {source source' : σ} {solution : Solution}
  (known : problem.unknowns[index]? = some ⟨name, guard, .menu values choices⟩)
  (solved : problem.solve chooser budget source = (.ok solution, source'))
include known solved

/-- A menu has the first value whose choice holds, if the guard does. -/
theorem value?_of_solve : solution.value? index =
    if solution.satisfies guard then
      (((values.zip choices).find? fun choice => solution.holds choice.2).map Prod.fst).map .text
    else none := by
  unfold solve at solved
  split at solved
  · cases solved
  · cases solved
  case h_3 trail left between _ =>
    cases solved
    obtain ⟨later, drawn⟩ := exists_draw (fun l : Literal =>
      trail.assignment.getD l.proposition.index false == l.positive) chooser.number
        (Array.getElem?_toList ▸ known) between
    rw [Solution.value?, Array.getD_eq_getD_getElem?, List.getElem?_toArray, drawn,
      Option.getD_some]
    exact draw_menu (fun p => trail.assignment.getD p.index false) chooser.number later

/-- A menu has a value if and only if the value's choice holds. -/
theorem Built.value?_eq_text_iff (built : problem.Built) :
    solution.value? index = some (.text value) ↔
      ∃ p, (value, p) ∈ values.zip choices ∧ solution.holds p = true := by
  have menu := built.isMenu known
  have met := (built.scoped.satisfiedBy_of_solve solved).1
  rw [value?_of_solve known solved]
  constructor
  · intro found
    split_ifs at found with guarded
    rw [Option.map_map, Option.map_eq_some_iff] at found
    obtain ⟨⟨value', p⟩, first, same⟩ := found
    cases same
    exact ⟨p, List.mem_of_find?_eq_some first, by simpa using List.find?_some first⟩
  · rintro ⟨p, mem, chosen⟩
    have guarded : solution.satisfies guard = true :=
      menu.satisfies_guard met (List.of_mem_zip mem).2 chosen
    rw [if_pos guarded, menu.find?_eq met mem chosen, Option.map_some]

end Solve

end Problem

end Worldsmith
