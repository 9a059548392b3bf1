import Worldsmith.Proofs.Logic.Building
import Worldsmith.Proofs.Logic.Satisfaction

/-!
# What a problem consists of

What comes of a problem does not depend on the table that finds its names. A sheet lists the names,
constraints and variables of a problem, and grows with it.

## Main definitions

* `Sheet` — names, constraints and variables, in order.
* `Problem.Consists` — a sheet lists what there is in a problem.
-/

namespace Worldsmith

/-- The names, constraints and variables of a problem, in order. -/
structure Sheet where
  names : List String
  constraints : List Constraint
  unknowns : List Variable

namespace Sheet

def empty : Sheet := ⟨[], [], []⟩

/-- The proposition with a name, which is listed if it is not yet. -/
def proposition (sheet : Sheet) (name : String) : Proposition × Sheet :=
  match sheet.names.idxOf? name with
  | some i => (⟨i⟩, sheet)
  | none => (⟨sheet.names.length⟩, { sheet with names := sheet.names ++ [name] })

def add (sheet : Sheet) (constraint : Constraint) : Sheet :=
  { sheet with constraints := sheet.constraints ++ [constraint] }

def addVariable (sheet : Sheet) (v : Variable) : Sheet :=
  { sheet with unknowns := sheet.unknowns ++ [v] }

/-- The propositions that say which value a menu takes. -/
def choiceNames (sheet : Sheet) (name : String) : List String → List Proposition × Sheet
  | [] => ([], sheet)
  | value :: rest =>
    let (choice, sheet) := sheet.proposition (name ++ "=" ++ value)
    let (choices, sheet) := choiceNames sheet name rest
    (choice :: choices, sheet)

/-- A menu of which one value is taken if the guard holds, and none else. -/
def menuVariable (sheet : Sheet) (name : String) (values : List String) (guard : Literal) : Sheet :=
  let (choices, sheet) := sheet.choiceNames name values
  let sheet := choices.foldl (fun sheet choice =>
    sheet.add (.clause [choice.negative, guard].eraseDups)) sheet
  let one := (Constraint.between 1 1 (choices.map Proposition.positive).eraseDups).guarded guard
  (sheet.add one).addVariable ⟨name, guard, .menu values choices⟩

end Sheet

namespace Problem

variable {problem : Problem} {sheet : Sheet}

/-- Whether a sheet lists what there is in a problem. -/
structure Consists (problem : Problem) (sheet : Sheet) : Prop where
  names : problem.names.names = sheet.names.toArray
  constraints : problem.constraints.toList = sheet.constraints
  unknowns : problem.unknowns.toList = sheet.unknowns
  sized : problem.priors.size = problem.size

namespace Consists

theorem empty : Problem.empty.Consists .empty := ⟨rfl, rfl, rfl, rfl⟩

variable (h : problem.Consists sheet)
include h

theorem size_eq : problem.size = sheet.names.length := by
  rw [Problem.size, NameTable.size, h.names, List.size_toArray]

theorem proposition (name : String) :
    (problem.proposition name).1 = (sheet.proposition name).1 ∧
      (problem.proposition name).2.Consists (sheet.proposition name).2 := by
  rw [Sheet.proposition]
  cases found : sheet.names.idxOf? name with
  | some i =>
    obtain ⟨lt, same, -⟩ := List.findIdx?_eq_some_iff_getElem.mp found
    have known : problem.name? ⟨i⟩ = some name := by
      rw [name?, h.names, List.getElem?_toArray, List.getElem?_eq_getElem lt, beq_iff_eq.mp same]
    rw [proposition_of_name? h.sized known]
    exact ⟨rfl, h⟩
  | none =>
    have new : name ∉ sheet.names.toArray := by simpa using List.idxOf?_eq_none_iff.mp found
    obtain ⟨first, names⟩ := proposition_of_notMem name h.names new
    refine ⟨by simpa using first, ⟨by simpa using names, h.constraints, h.unknowns, ?_⟩⟩
    exact size_priors_proposition h.sized name

theorem add (constraint : Constraint) :
    (problem.add constraint).Consists (sheet.add constraint) where
  names := h.names
  constraints := by rw [Problem.add, Array.toList_push, h.constraints, Sheet.add]
  unknowns := h.unknowns
  sized := h.sized

theorem addVariable (v : Variable) :
    (problem.addVariable v).2.Consists (sheet.addVariable v) where
  names := h.names
  constraints := h.constraints
  unknowns := by rw [Problem.addVariable, Array.toList_push, h.unknowns, Sheet.addVariable]
  sized := h.sized

theorem setPrior (p : Proposition) (probability : Float) :
    (problem.setPrior p probability).Consists sheet where
  names := h.names
  constraints := h.constraints
  unknowns := h.unknowns
  sized := by
    have sized : (problem.setPrior p probability).priors.size = problem.priors.size :=
      Array.size_modify
    exact sized.trans h.sized

theorem choiceNames (name : String) (values : List String) :
    (problem.choiceNames name values).1 = (sheet.choiceNames name values).1 ∧
      (problem.choiceNames name values).2.Consists (sheet.choiceNames name values).2 := by
  induction values generalizing problem sheet with
  | nil => exact ⟨rfl, h⟩
  | cons value rest ih =>
    obtain ⟨first, consists⟩ := h.proposition (name ++ "=" ++ value)
    obtain ⟨others, last⟩ := ih consists
    exact ⟨congrArg₂ List.cons first others, last⟩

theorem guardChoices (prior : Float) (guard : Literal) (choices : List Proposition) :
    (problem.guardChoices prior guard choices).Consists
      (choices.foldl (fun sheet choice =>
        sheet.add (.clause [choice.negative, guard].eraseDups)) sheet) := by
  induction choices generalizing problem sheet with
  | nil => exact h
  | cons choice rest ih => exact ih ((h.setPrior choice prior).add _)

theorem menuVariable (name : String) (values : List String) (guard : Literal) :
    (problem.menuVariable name values guard).2.Consists
      (sheet.menuVariable name values guard) := by
  obtain ⟨same, consists⟩ := h.choiceNames name values
  rw [Sheet.menuVariable, Problem.menuVariable]
  generalize sheet.choiceNames name values = listed at same consists ⊢
  generalize problem.choiceNames name values = made at same consists ⊢
  obtain ⟨choices, later⟩ := made
  obtain rfl := same
  exact ((consists.guardChoices _ guard _).add _).addVariable _

end Consists

/-- Whatever is built consists of something. -/
theorem Built.exists_consists (built : problem.Built) : ∃ sheet, problem.Consists sheet := by
  induction built with
  | empty => exact ⟨_, .empty⟩
  | proposition name _ ih => exact ⟨_, (ih.choose_spec.proposition name).2⟩
  | setPrior p probability _ ih => exact ⟨_, ih.choose_spec.setPrior p probability⟩
  | add constraint _ _ ih => exact ⟨_, ih.choose_spec.add constraint⟩
  | rangeVariable name low high guard _ _ ih => exact ⟨_, ih.choose_spec.addVariable _⟩
  | menuVariable name values guard _ _ ih =>
    exact ⟨_, ih.choose_spec.menuVariable name values guard⟩
  | restrictMenu index conditions allowed _ _ ih =>
    rw [Problem.restrictMenu]
    split
    · exact ih
    · exact ⟨_, ih.choose_spec.add _⟩

end Problem

end Worldsmith
