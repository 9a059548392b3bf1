import Worldsmith.Proofs.Search.Menus

/-!
# What menus mean

However a problem has been built, a menu has a value in a solution just where its guard holds. The
value is on the menu, it is the one whose proposition holds, and it is one of the allowed values of
every restriction whose conditions hold. Menus may share propositions, and a menu may list a value
twice or no value at all.

## Main definitions

* `Problem.Restricts` — a menu has been restricted on the way to a problem.

## Main statements

* `Problem.Built.menu_of_solve` — what a solution says of a menu, its choices and its restrictions.
-/

namespace Worldsmith

namespace Problem

variable {problem later : Problem} {name : String} {guard : Literal} {values allowed : List String}
  {choices : List Proposition} {index : Nat} {p : Proposition} {value : String}
  {conditions : List Literal}

/-! ## Restrictions -/

/-- Whether a menu has been restricted on the way to a problem: there was the menu, it was
restricted, and from there on the problem only grew. -/
def Restricts (problem : Problem) (index : Nat) (conditions : List Literal)
    (allowed : List String) : Prop :=
  ∃ earlier : Problem, earlier.Built ∧ index < earlier.unknowns.size ∧
    (earlier.restrictMenu index conditions allowed).Extends problem

theorem Built.restricts_restrictMenu (built : problem.Built) (known : index < problem.unknowns.size)
    (conditions : List Literal) (allowed : List String) :
    (problem.restrictMenu index conditions allowed).Restricts index conditions allowed :=
  ⟨problem, built, known, .refl _⟩

theorem Restricts.mono (restricts : problem.Restricts index conditions allowed)
    (grows : problem.Extends later) : later.Restricts index conditions allowed := by
  obtain ⟨earlier, built, known, extends_⟩ := restricts
  exact ⟨earlier, built, known, extends_.trans grows⟩

/-- A restriction asks for one of the allowed values that are on the menu. -/
theorem Restricts.clause_mem (restricts : problem.Restricts index conditions allowed)
    (known : problem.unknowns[index]? = some ⟨name, guard, .menu values choices⟩) :
    Constraint.clause (guard.negate :: conditions.map Literal.negate ++
      ((values.zip choices).filter fun choice => allowed.any (Text.sameAscii · choice.1)).map
        fun choice => choice.2.positive).eraseDups ∈ problem.constraints.toList := by
  obtain ⟨earlier, -, inside, grows⟩ := restricts
  have before : earlier.unknowns[index]? = some ⟨name, guard, .menu values choices⟩ := by
    have there := Array.getElem?_eq_getElem inside
    have kept := ((extends_restrictMenu earlier index conditions allowed).trans
      grows).unknown?_eq_some there
    rw [there, ← kept, known]
  have menu : earlier.menu? index = some (guard, values.zip choices) := by rw [menu?, before]
  refine grows.mem_constraints ?_
  rw [restrictMenu, menu]
  exact mem_constraints_add.mpr (.inr rfl)

namespace IsMenu

section

variable (menu : problem.IsMenu name guard values choices)
include menu

/-- The name of a choice is the name of its value. -/
theorem name?_of_mem (mem : (value, p) ∈ values.zip choices) :
    problem.name? p = some (name ++ "=" ++ value) := by
  obtain ⟨-, named⟩ := List.forall₂_iff_zip.mp menu.names.flip
  exact named mem

/-- A value that is listed twice has one choice. -/
theorem choice_eq {q : Proposition} (mem : (value, p) ∈ values.zip choices)
    (mem' : (value, q) ∈ values.zip choices) : p = q :=
  eq_of_name? (menu.name?_of_mem mem) (menu.name?_of_mem mem')

theorem exists_value (mem : p ∈ choices) : ∃ value, (value, p) ∈ values.zip choices := by
  rw [← List.map_snd_zip (Nat.le_of_eq menu.names.length_eq)] at mem
  obtain ⟨⟨value, q⟩, among, rfl⟩ := List.mem_map.mp mem
  exact ⟨value, among⟩

end

/-- If the guard of a restricted menu and all conditions hold, so does the choice of an allowed
value. -/
theorem exists_allowed {holds : Valuation} (met : problem.SatisfiedBy holds)
    (restricts : problem.Restricts index conditions allowed)
    (known : problem.unknowns[index]? = some ⟨name, guard, .menu values choices⟩)
    (guarded : holds.satisfies guard = true)
    (conditioned : ∀ l ∈ conditions, holds.satisfies l = true) :
    ∃ value p, (value, p) ∈ values.zip choices ∧ holds p = true ∧
      ∃ text ∈ allowed, Text.sameAscii text value = true := by
  obtain ⟨l, mem, satisfied⟩ :=
    Constraint.holds_clause_iff.mp (met _ (restricts.clause_mem known))
  rw [List.mem_eraseDups, List.cons_append, List.mem_cons, List.mem_append] at mem
  rcases mem with rfl | mem | mem
  · simp [guarded] at satisfied
  · obtain ⟨condition, among, rfl⟩ := List.mem_map.mp mem
    simp [conditioned condition among] at satisfied
  · obtain ⟨⟨value, p⟩, among, rfl⟩ := List.mem_map.mp mem
    obtain ⟨offered, permitted⟩ := List.mem_filter.mp among
    refine ⟨value, p, offered, ?_, List.any_eq_true.mp permitted⟩
    simpa [Valuation.satisfies, Proposition.positive] using satisfied

end IsMenu

/-! ## Solutions -/

/-- The value of a menu is one of its texts, and there is none unless the guard holds. -/
theorem exists_text_of_value? {σ : Type} {chooser : Chooser σ} {budget : Nat} {source source' : σ}
    {solution : Solution} {value : Value}
    (solved : problem.solve chooser budget source = (.ok solution, source'))
    (known : problem.unknowns[index]? = some ⟨name, guard, .menu values choices⟩)
    (drawn : solution.value? index = some value) :
    solution.satisfies guard = true ∧ ∃ text ∈ values, value = .text text := by
  rw [value?_of_solve known solved] at drawn
  split_ifs at drawn with guarded
  rw [Option.map_map, Option.map_eq_some_iff] at drawn
  obtain ⟨⟨text, p⟩, first, rfl⟩ := drawn
  exact ⟨guarded, text, (List.of_mem_zip (List.mem_of_find?_eq_some first)).1, rfl⟩

/-- In a solution a menu has a value if and only if its guard holds. The value is on the menu, a
choice holds if and only if it is the choice of that value, and where the guard and all conditions
of a restriction hold the value is one of those allowed, but for the case of letters. -/
theorem Built.menu_of_solve {σ : Type} {chooser : Chooser σ} {budget : Nat} {source source' : σ}
    {solution : Solution} (built : problem.Built)
    (solved : problem.solve chooser budget source = (.ok solution, source'))
    (known : problem.unknowns[index]? = some ⟨name, guard, .menu values choices⟩) :
    ((∃ value, solution.value? index = some value) ↔ solution.satisfies guard = true) ∧
    (∀ value, solution.value? index = some value → ∃ text ∈ values, value = .text text) ∧
    List.Forall₂ (fun value choice => solution.holds choice = true ↔
      solution.satisfies guard = true ∧ solution.value? index = some (.text value))
      values choices ∧
    ∀ conditions allowed, problem.Restricts index conditions allowed →
      solution.satisfies guard = true → (∀ l ∈ conditions, solution.satisfies l = true) →
      ∃ value, solution.value? index = some (.text value) ∧
        ∃ text ∈ allowed, Text.sameAscii text value = true := by
  have menu := built.isMenu known
  have met := (built.scoped.satisfiedBy_of_solve solved).1
  have value_iff (text : String) : solution.value? index = some (.text text) ↔
      ∃ p, (text, p) ∈ values.zip choices ∧ solution.holds p = true :=
    built.value?_eq_text_iff known solved
  refine ⟨⟨fun ⟨_, drawn⟩ => (exists_text_of_value? solved known drawn).1, fun guarded => ?_⟩,
    fun _ drawn => (exists_text_of_value? solved known drawn).2, ?_, ?_⟩
  · obtain ⟨p, ⟨mem, chosen⟩, -⟩ := menu.existsUnique_choice met guarded
    obtain ⟨value, among⟩ := menu.exists_value mem
    exact ⟨.text value, (value_iff value).mpr ⟨p, among, chosen⟩⟩
  · refine List.forall₂_iff_zip.mpr ⟨menu.names.length_eq.symm, fun {value p} mem => ⟨?_, ?_⟩⟩
    · intro chosen
      exact ⟨menu.satisfies_guard met (List.of_mem_zip mem).2 chosen,
        (value_iff value).mpr ⟨p, mem, chosen⟩⟩
    · rintro ⟨-, drawn⟩
      obtain ⟨q, among, chosen⟩ := (value_iff value).mp drawn
      exact menu.choice_eq mem among ▸ chosen
  · intro conditions allowed restricts guarded conditioned
    obtain ⟨value, p, mem, chosen, permitted⟩ :=
      IsMenu.exists_allowed met restricts known guarded conditioned
    exact ⟨value, (value_iff value).mpr ⟨p, mem, chosen⟩, permitted⟩

/-! ## A wardrobe -/

def coat : Proposition := ⟨0⟩

/-- A coat, and the colors that it comes in. -/
def wardrobe : Problem :=
  ((Problem.empty.proposition "coat").2.menuVariable "color" ["red", "Blue"] coat.positive).2

/-- There is a coat, and coats are to be green or blue. -/
def blueWardrobe : Problem :=
  (wardrobe.restrictMenu 0 [coat.positive] ["green", "BLUE"]).assert coat.positive

theorem names_coat : (Problem.empty.proposition "coat").2.names.names = #["coat"] := by
  have known : Problem.empty.names.names = #[] := rfl
  exact (proposition_of_notMem "coat" known (by simp)).2

theorem choiceNames_coat :
    let made := (Problem.empty.proposition "coat").2.choiceNames "color" ["red", "Blue"]
    made.1 = [⟨1⟩, ⟨2⟩] ∧ made.2.names.names = #["coat", "color=red", "color=Blue"] ∧
      made.2.constraints = #[] ∧ made.2.unknowns = #[] := by
  obtain ⟨red, two⟩ := proposition_of_notMem "color=red" names_coat (by simp)
  obtain ⟨blue, three⟩ := proposition_of_notMem "color=Blue" two (by simp)
  exact ⟨congrArg₂ (fun p q => [p, q]) red blue, three, rfl, rfl⟩

theorem blueWardrobe_eq :
    blueWardrobe.size = 3 ∧
    blueWardrobe.unknowns = #[⟨"color", coat.positive, .menu ["red", "Blue"] [⟨1⟩, ⟨2⟩]⟩] ∧
    blueWardrobe.constraints.toList = [.clause [⟨⟨1⟩, false⟩, coat.positive],
      .clause [⟨⟨2⟩, false⟩, coat.positive],
      (Constraint.between 1 1 [⟨⟨1⟩, true⟩, ⟨⟨2⟩, true⟩]).guarded coat.positive,
      .clause [⟨coat, false⟩, ⟨⟨2⟩, true⟩], .clause [coat.positive]] := by
  obtain ⟨choices, names, constraints, unknowns⟩ := choiceNames_coat
  rw [blueWardrobe, wardrobe, menuVariable]
  generalize (Problem.empty.proposition "coat").2.choiceNames "color" ["red", "Blue"] = made at *
  obtain ⟨made, problem⟩ := made
  obtain ⟨table, priors, demands, menus⟩ := problem
  dsimp only at choices names constraints unknowns
  subst choices constraints unknowns
  exact ⟨congrArg Array.size names, rfl, rfl⟩

theorem has_coat : (Problem.empty.proposition "coat").2.Has coat := by
  rw [Has, size, NameTable.size, names_coat]
  exact Nat.zero_lt_one

theorem built_wardrobe : wardrobe.Built :=
  (Built.empty.proposition "coat").menuVariable "color" _ _ has_coat

theorem built_blueWardrobe : blueWardrobe.Built := by
  have own : wardrobe.Has coat := (extends_menuVariable _ _ _ _).has has_coat
  have own' := (extends_restrictMenu wardrobe 0 [coat.positive] ["green", "BLUE"]).has own
  refine (built_wardrobe.restrictMenu 0 _ _ ?_).clause ?_
  · exact List.forall_mem_singleton.mpr own
  · exact List.forall_mem_singleton.mpr own'

theorem restricts_blueWardrobe :
    blueWardrobe.Restricts 0 [coat.positive] ["green", "BLUE"] := by
  have one : wardrobe.unknowns.size = 1 := by
    rw [wardrobe, unknowns_menuVariable]
    rfl
  exact (built_wardrobe.restricts_restrictMenu (one ▸ Nat.zero_lt_one) _ _).mono (extends_add _ _)

/-- Everything follows before anything is decided. -/
theorem solve_blueWardrobe : blueWardrobe.solve .steady 20 () =
    (.ok ⟨#[true, false, true], #[some (.text "Blue")], 15⟩, ()) := by
  obtain ⟨size, unknowns, constraints⟩ := blueWardrobe_eq
  have settled : blueWardrobe.settle 20 =
      ⟨.quiet, ⟨#[some true, some false, some true], #[⟨0⟩, ⟨2⟩, ⟨1⟩]⟩, 5⟩ := by
    rw [settle, occurrences, constraints, size]
    cbv
  have searched : blueWardrobe.search .steady 20 () = (.found
      ⟨#[some true, some false, some true], #[⟨0⟩, ⟨2⟩, ⟨1⟩]⟩ 5, ()) := by
    rw [search, settled]
    dsimp only [Chooser.steady]
    rw [propositions, size, descend]
    cbv
  rw [solve, searched, unknowns]
  cbv

/-- The coat that is found is blue, its choice is the second one, and so is what was allowed. -/
theorem menu_blueWardrobe :
    let solution : Solution := ⟨#[true, false, true], #[some (.text "Blue")], 15⟩
    blueWardrobe.solve .steady 20 () = (.ok solution, ()) ∧
    ((∃ value, solution.value? 0 = some value) ↔ solution.satisfies coat.positive = true) ∧
    (∀ value, solution.value? 0 = some value → ∃ text ∈ ["red", "Blue"], value = .text text) ∧
    List.Forall₂ (fun value choice => solution.holds choice = true ↔
      solution.satisfies coat.positive = true ∧ solution.value? 0 = some (.text value))
      ["red", "Blue"] [⟨1⟩, ⟨2⟩] ∧
    blueWardrobe.Restricts 0 [coat.positive] ["green", "BLUE"] ∧
    ∃ value, solution.value? 0 = some (.text value) ∧
      ∃ text ∈ ["green", "BLUE"], Text.sameAscii text value = true := by
  have known : blueWardrobe.unknowns[0]? =
      some ⟨"color", coat.positive, .menu ["red", "Blue"] [⟨1⟩, ⟨2⟩]⟩ := by
    rw [blueWardrobe_eq.2.1]
    rfl
  obtain ⟨guarded, offered, chosen, allowed⟩ :=
    built_blueWardrobe.menu_of_solve solve_blueWardrobe known
  refine ⟨solve_blueWardrobe, guarded, offered, chosen, restricts_blueWardrobe, ?_⟩
  exact allowed _ _ restricts_blueWardrobe (by decide)
    (List.forall_mem_singleton.mpr (by decide))

end Problem

end Worldsmith
