import Worldsmith.Proofs.Blueprint.Advance

/-!
# What membership entails

Each consequence of being of a kind is written down as one constraint about literals that say what
the world says. Properties become variables and leave all beings what they are.
-/

namespace Worldsmith

namespace Blueprint

variable {b : Blueprint} {i : Nat} {member : Literal}

namespace Valid

variable (valid : b.Valid) (hi : i < b.beings.size)
include valid hi

theorem assertTrait (trait : Trait) : b.Advances (assertTrait i b trait) ∧
    (Blueprint.assertTrait i b trait).Claims i trait := by
  obtain ⟨made, denotes⟩ := valid.literal hi trait
  have own : ∀ l ∈ [(b.literal i trait).1], (b.literal i trait).2.problem.Has l.proposition := by
    simpa using denotes.has
  obtain ⟨added, demands⟩ := made.valid.advances_clause own
  exact ⟨made.trans added, _, added.grows.denotes (made.grows.lt_size hi) denotes, demands⟩

variable (own : b.problem.Has member.proposition)
include own

theorem chooseSubkind (subkinds : List (Id .kind)) :
    b.Advances (chooseSubkind i member subkinds b) ∧
      (Blueprint.chooseSubkind i member subkinds b).Divides i member subkinds := by
  unfold Blueprint.chooseSubkind
  split_ifs with none
  · exact ⟨.refl valid, fun some => absurd (List.isEmpty_iff.mp none) some⟩
  · obtain ⟨made, spells⟩ := valid.memberships hi subkinds
    have own' : ∀ l ∈ member.negate :: (b.memberships i subkinds).1,
        (b.memberships i subkinds).2.problem.Has l.proposition :=
      List.forall_mem_cons.mpr ⟨made.grows.problem.has own, spells.has⟩
    have added := made.valid.advances_constraint (made.valid.built.unique own')
    refine ⟨made.trans added, fun _ => ⟨_, added.grows.spells (made.grows.lt_size hi) spells, ?_⟩⟩
    exact Problem.mem_constraints_add.mpr (.inr rfl)

theorem implySuperkind (parent : Id .kind) : b.Advances (implySuperkind i member parent b) ∧
    (Blueprint.implySuperkind i member parent b).Lifts i member parent := by
  obtain ⟨made, names⟩ := valid.isOf hi parent
  have own' : ∀ l ∈ [member.negate, (b.isOf i parent).1.positive],
      (b.isOf i parent).2.problem.Has l.proposition := by
    simpa using ⟨made.grows.problem.has own, names.has⟩
  obtain ⟨added, demands⟩ := made.valid.advances_clause own'
  refine ⟨made.trans added, _, ?_, demands⟩
  exact added.grows.denotes (made.grows.lt_size hi) names.positive

theorem addImplication (implication : Implication) :
    b.Advances (addImplication i member b implication) ∧
      (Blueprint.addImplication i member b implication).Implies i member implication := by
  obtain ⟨made, spells⟩ := valid.literals hi implication.conditions
  have hi' := made.grows.lt_size hi
  obtain ⟨made', denotes⟩ := made.valid.literal hi' implication.consequent
  have hi'' := made'.grows.lt_size hi'
  have spells' := made'.grows.spells hi' spells
  have negated : ∀ l ∈ (b.literals i implication.conditions).1.map Literal.negate,
      ((b.literals i implication.conditions).2.literal i implication.consequent).2.problem.Has
        l.proposition := by
    intro l hl
    obtain ⟨condition, hc, rfl⟩ := List.mem_map.mp hl
    exact spells'.has condition hc
  have first : ((b.literals i implication.conditions).2.literal i
      implication.consequent).2.problem.Has member.negate.proposition :=
    (made.trans made').grows.problem.has own
  obtain ⟨added, demands⟩ := made'.valid.advances_clause (List.forall_mem_append.mpr
    ⟨List.forall_mem_cons.mpr ⟨first, negated⟩, List.forall_mem_singleton.mpr denotes.has⟩)
  exact ⟨made.trans (made'.trans added), _, _, added.grows.spells hi'' spells',
    added.grows.denotes hi'' denotes, demands⟩

theorem addAlternatives (set : AlternativeSet) : b.Advances (addAlternatives i member b set) ∧
    (Blueprint.addAlternatives i member b set).Bounds i member set := by
  obtain ⟨made, spells⟩ := valid.literals hi set.alternatives
  have added := made.valid.advances_constraint
    (made.valid.built.quantifyIf set.low set.high (made.grows.problem.has own) spells.has)
  refine ⟨made.trans added, _, added.grows.spells (made.grows.lt_size hi) spells, ?_⟩
  exact Problem.mem_constraints_add.mpr (.inr rfl)

theorem addImplications (implications : List Implication) :
    let b' := implications.foldl (Blueprint.addImplication i member) b
    b.Advances b' ∧ ∀ implication ∈ implications, b'.Implies i member implication :=
  Advances.foldl_done implications (fun b implication => b.Implies i member implication) valid
    (fun grows later => later.implies (grows.lt_size hi)) fun _ h implication _ =>
      h.valid.addImplication (h.grows.lt_size hi) (h.grows.problem.has own) implication

theorem addAlternativeSets (sets : List AlternativeSet) :
    let b' := sets.foldl (Blueprint.addAlternatives i member) b
    b.Advances b' ∧ ∀ set ∈ sets, b'.Bounds i member set :=
  Advances.foldl_done sets (fun b set => b.Bounds i member set) valid
    (fun grows later => later.bounds (grows.lt_size hi)) fun _ h set _ =>
      h.valid.addAlternatives (h.grows.lt_size hi) (h.grows.problem.has own) set

/-! ## Properties -/

omit own in
theorem addRestriction (variableIndex : Nat) (restriction : MenuRestriction) :
    b.Advances (addRestriction i variableIndex b restriction) := by
  obtain ⟨made, spells⟩ := valid.literals hi restriction.conditions
  exact made.trans (made.valid.advances_problem (Problem.extends_restrictMenu _ _ _ _)
    (made.valid.built.restrictMenu _ _ _ spells.has)
    fun _ own => .inl (Problem.has_restrictMenu own))

section Menu

variable {id : Id .property} {v : Nat} {source name : String} {values : List String}
  {restrictions : List MenuRestriction} {guard : Literal} {choices : List Proposition}
  (menu : (b.world.property id).domain = .menu source values restrictions)
  (known : b.problem.unknowns[v]? = some ⟨name, guard, .menu values choices⟩)
include menu known

omit valid own in
/-- A menu serves a property once the value that the world has fixed is chosen, if it is there. -/
theorem serves_of_chosen {b' : Blueprint} (grows : b.Extends b')
    (chosen : ∀ choice, (b.fixedValue? i id).bind (b.problem.menuChoice? v) = some choice →
      b'.Demands (.clause [choice.positive])) : b'.Serves i id v := by
  intro source' values' restrictions' menu'
  rw [grows.world, menu] at menu'
  cases menu'
  refine ⟨name, guard, choices, grows.problem.unknown?_eq_some known, ?_⟩
  intro value choice fixed found
  rw [grows.fixedValue?_eq hi] at fixed
  rw [Problem.menuChoice?, grows.problem.menu?_eq known] at found
  exact chosen choice (Option.bind_eq_some_iff.mpr ⟨value, fixed, found⟩)

omit own in
/-- To assert the choice of the value that the world has fixed is to choose it. -/
theorem chooseFixed {choice : Proposition}
    (chosen : (b.fixedValue? i id).bind (b.problem.menuChoice? v) = some choice) :
    b.Advances (b.modifyProblem (·.assert choice.positive)) ∧
      (b.modifyProblem (·.assert choice.positive)).Serves i id v := by
  obtain ⟨value, -, found⟩ := Option.bind_eq_some_iff.mp chosen
  have own := valid.built.scoped.menuChoice? found
  obtain ⟨asserted, demands⟩ := valid.advances_clause
    (List.forall_mem_singleton (a := choice.positive).mpr own)
  refine ⟨asserted, serves_of_chosen hi menu known asserted.grows ?_⟩
  intro other chosen'
  obtain rfl := Option.some.inj (chosen.symm.trans chosen')
  exact demands

end Menu

omit hi own in
/-- A property is recorded with its variable. -/
theorem recordProperty {id : Id .property} {v : Nat} (serves : b.Serves i id v) :
    b.Advances (b.modifyBeing i fun being =>
      { being with properties := being.properties ++ [(id, v)] }) := by
  refine valid.advances_modifyBeing i (fun _ => rfl) ?_
  intro id' v' mem
  rcases List.mem_append.mp mem with mem | mem
  · exact .inl mem
  · obtain ⟨rfl, rfl⟩ := Prod.mk.inj (List.mem_singleton.mp mem)
    exact .inr serves

theorem addProperty (id : Id .property) : b.Advances (addProperty i member b id) := by
  unfold Blueprint.addProperty
  split_ifs with recorded
  · exact .refl valid
  dsimp only
  generalize untokenize (b.world.property id).name ++ "(" ++ (b.being i).name ++ ")" = name
  split
  · exact .refl valid
  case h_2 low high range =>
    split_ifs with fixed
    · exact .refl valid
    · have made := valid.advances_problem
        (Problem.extends_rangeVariable b.problem name low high member)
        (valid.built.rangeVariable name low high member own) fun _ => .inl
      refine made.trans (made.valid.recordProperty ?_)
      intro source values restrictions menu
      cases range.symm.trans menu
  case h_3 source values restrictions menu =>
    have made := valid.advances_problem
      (Problem.extends_menuVariable b.problem name values member)
      (valid.built.menuVariable name values member own) fun _ own =>
        (Problem.has_menuVariable own).imp_right fun ⟨_, named⟩ => .other named (.inr (by simp))
    have restricted := Advances.foldl restrictions (.refl made.valid) fun b₁ h restriction _ =>
      h.valid.addRestriction ((made.trans h).grows.lt_size hi)
        (b.problem.menuVariable name values member).1 restriction
    have known := restricted.grows.problem.unknown?_eq_some
      (b.problem.unknown?_menuVariable name values member)
    have advanced := made.trans restricted
    have hi' := advanced.grows.lt_size hi
    have menu' := advanced.grows.world ▸ menu
    -- What the world has fixed is still the same after the restrictions.
    rw [← advanced.grows.fixedValue?_eq hi]
    split
    case h_1 choice chosen =>
      obtain ⟨asserted, serves⟩ := restricted.valid.chooseFixed hi' menu' known chosen
      exact advanced.trans (asserted.trans (asserted.valid.recordProperty serves))
    case h_2 none =>
      refine advanced.trans (restricted.valid.recordProperty ?_)
      refine serves_of_chosen hi' menu' known (.refl _) fun choice chosen => ?_
      cases none.symm.trans chosen

theorem addProperties (properties : List (Id .property)) :
    b.Advances (properties.foldl (Blueprint.addProperty i member) b) :=
  Advances.foldl properties (.refl valid) fun _ h id _ =>
    h.valid.addProperty (h.grows.lt_size hi) (h.grows.problem.has own) id

end Valid

end Blueprint

end Worldsmith
