import Worldsmith.Proofs.Model.Membership
import Worldsmith.Proofs.Search.Menus

/-!
# Values that the world has fixed

The value of a property that the world has fixed for an individual is read from the world and not
from the solution, although there is a variable for it if the property is a menu. The two agree if
the value is on the menu: then its choice has been asserted. They do not agree if it is on another
menu, which the property may have had when the value was stated.

## Main statements

* `Model.value?_of_fixed` — the fixed value is the value of the variable if and only if it is on the
  menu.
-/

namespace Worldsmith

open Blueprint

namespace Model

variable {σ : Type} {world : World} {request : Request} {chooser : Chooser σ} {budget : Nat}
  {source source' : σ} {solution : Solution} {i v : Nat} {id : Id .property} {file value : String}
  {values : List String} {restrictions : List MenuRestriction}

/-- What the world has fixed is the value of a property. It is also what the solution says, but for
the case of letters, if and only if it is on the property's menu. -/
theorem value?_of_fixed
    (solved : (ofRequest world request).problem.solve chooser budget source =
      (.ok solution, source'))
    (recorded : (id, v) ∈ ((ofRequest world request).being i).properties)
    (menu : (world.property id).domain = .menu file values restrictions)
    (fixed : (ofRequest world request).fixedValue? i id = some value) :
    value? ⟨.ofRequest world request, solution⟩ i id = some value ∧
      ((∃ text, solution.value? v = some (.text text) ∧ Text.sameAscii text value = true) ↔
        ∃ choice ∈ values, Text.sameAscii choice value = true) := by
  refine ⟨by rw [value?, fixed], ?_⟩
  obtain ⟨complete, same, -⟩ := complete_ofRequest world request
  generalize ofRequest world request = b at solved recorded fixed complete same
  subst same
  obtain ⟨name, guard, choices, known, asserted⟩ := complete.served i id v recorded _ _ _ menu
  have built := complete.valid.built
  have value_iff (text : String) : solution.value? v = some (.text text) ↔
      ∃ p, (text, p) ∈ values.zip choices ∧ solution.holds p = true :=
    Problem.Built.value?_eq_text_iff known solved built
  constructor
  · rintro ⟨text, drawn, same⟩
    obtain ⟨p, mem, -⟩ := (value_iff text).mp drawn
    exact ⟨text, (List.of_mem_zip mem).1, same⟩
  · intro offered
    obtain ⟨choice, p, mem, same, chosen⟩ :=
      (built.isMenu known).exists_menuChoice? known offered
    have met := (built.scoped.satisfiedBy_of_solve solved).1
    have holds : solution.holds p = true := by
      have holds := Constraint.holds_clause_iff.mp (met _ (asserted value p fixed chosen))
      simpa [Valuation.satisfies, Proposition.positive] using holds
    exact ⟨choice, (value_iff choice).mpr ⟨p, mem, holds⟩, same⟩

end Model

end Worldsmith
