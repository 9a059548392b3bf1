import Worldsmith.Proofs.Blueprint.Tasks
import Worldsmith.Proofs.Comparison.Sayings
import Worldsmith.Proofs.Logic.Echoes
import Worldsmith.Proofs.World.Additions

/-!
# Blueprints side by side

Two blueprints that are made in the same way come to demand the same, although their beings may have
other names and their propositions other numbers. One of them may be of a world with more
properties. Then each of its constraints says what one of the other says, or comes with the menu of
a property that the other does not have.

## Main definitions

* `Blueprint.Echo` — propositions of two blueprints say the same.
* `Blueprint.Matches` — all that one blueprint demands is demanded by another, but for menus of
  further properties.
* `Blueprint.Together` — two blueprints go on side by side.
-/

namespace Worldsmith

/-- Whether a being of one world is like one of another, up to names and further properties. -/
structure Being.Resembles (world : World) (x y : Being) : Prop where
  kinds : y.kinds = x.kinds
  depth : y.depth = x.depth
  parts : y.parts = x.parts
  properties : ∀ id : Id .property, world.Owns id →
    y.properties.any (·.1 == id) = x.properties.any (·.1 == id)

namespace Blueprint

variable {b b' c c' d d' : Blueprint} {i : Nat} {kind : Id .kind} {p p' : Proposition}
  {l l' member member' : Literal} {constraint constraint' : Constraint}

/-- Whether propositions of two blueprints say the same. -/
def Echo (b b' : Blueprint) (p p' : Proposition) : Prop := ∃ s, b.Says p s ∧ b'.Says p' s

/-- Whether propositions say which value is taken from the menu of a property of a being, if it is
of the kind that has the property. -/
structure Offers (b : Blueprint) (i : Nat) (id : Id .property) (guard : Proposition)
    (choices : List Proposition) : Prop where
  owned : b.world.Owns id
  guard : b.Says guard (.quality i (.kind (b.world.property id).owner))
  choices : ∃ source values restrictions,
    (b.world.property id).domain = .menu source values restrictions ∧
      List.Forall₂ (fun p value => b.Says p (.choice i id value)) choices values

/-- Whether a constraint comes with the menu of a property that a world does not have. -/
inductive Furnishes (world : World) (b : Blueprint) : Constraint → Prop where
  | implies {i : Nat} {id : Id .property} {guard : Proposition} {choices : List Proposition}
      {choice : Proposition} (other : ¬world.Owns id) (offers : b.Offers i id guard choices)
      (mem : choice ∈ choices) :
      Furnishes world b (.clause [choice.negative, guard.positive].eraseDups)
  | one {i : Nat} {id : Id .property} {guard : Proposition} {choices : List Proposition}
      (other : ¬world.Owns id) (offers : b.Offers i id guard choices) :
      Furnishes world b ((Constraint.between 1 1
        (choices.map Proposition.positive).eraseDups).guarded guard.positive)

/-- Whether relations of two blueprints are the same. -/
structure RelationEchoes (b b' : Blueprint) (r r' : Relation) : Prop where
  verb : r'.verb = r.verb
  subject : r'.subject = r.subject
  object : r'.object = r.object
  echo : b.Echo b' r.proposition r'.proposition

/-- Whether the beings of two blueprints are alike, and all that the second demands is demanded by
the first or comes with the menu of a property that the first does not have. -/
structure Matches (b b' : Blueprint) : Prop where
  valid : b.Valid
  valid' : b'.Valid
  underlies : b.world.Underlies b'.world
  size : b'.beings.size = b.beings.size
  beings : ∀ i, (b.being i).Resembles b.world (b'.being i)
  fixed : ∀ i id, b'.fixedValue? i id = b.fixedValue? i id
  asserted : b'.asserted = b.asserted
  expanded : b'.expanded = b.expanded
  relations : List.Forall₂ (b.RelationEchoes b') b.relations.toList b'.relations.toList
  relation? : ∀ verb subject object,
    Option.Rel (b.Echo b') (b.relation? verb subject object) (b'.relation? verb subject object)
  demands : ∀ constraint', b'.Demands constraint' →
    (∃ constraint, b.Demands constraint ∧ constraint.Echoes (b.Echo b') constraint') ∨
      b'.Furnishes b.world constraint'

/-- Whether two blueprints have gone on side by side from two others. -/
structure Together (b b' c c' : Blueprint) : Prop where
  grows : b.Extends c
  grows' : b'.Extends c'
  matched : c.Matches c'

/-! ## What lasts -/

theorem Echo.later (echo : b.Echo b' p p') (grows : b.Extends c) (grows' : b'.Extends c') :
    c.Echo c' p p' := by
  obtain ⟨s, said, said'⟩ := echo
  exact ⟨s, said.later grows, said'.later grows'⟩

theorem Echo.has (echo : b.Echo b' p p') : b.problem.Has p ∧ b'.problem.Has p' := by
  obtain ⟨s, said, said'⟩ := echo
  exact ⟨Problem.has_of_name? said.name?, Problem.has_of_name? said'.name?⟩

theorem Offers.later {id : Id .property} {guard : Proposition} {choices : List Proposition}
    (offers : b.Offers i id guard choices) (grows : b.Extends c) :
    c.Offers i id guard choices := by
  obtain ⟨owned, said, source, values, restrictions, domain, each⟩ := offers
  have world := grows.world
  refine ⟨world ▸ owned, world ▸ said.later grows, source, values, restrictions, world ▸ domain, ?_⟩
  exact each.imp fun _ _ said => said.later grows

theorem Furnishes.later {world : World} (furnishes : b.Furnishes world constraint)
    (grows : b.Extends c) : c.Furnishes world constraint := by
  cases furnishes with
  | implies other offers mem => exact .implies other (offers.later grows) mem
  | one other offers => exact .one other (offers.later grows)

theorem RelationEchoes.later {r r' : Relation} (h : b.RelationEchoes b' r r')
    (grows : b.Extends c) (grows' : b'.Extends c') : c.RelationEchoes c' r r' :=
  ⟨h.verb, h.subject, h.object, h.echo.later grows grows'⟩

namespace Together

theorem refl (h : b.Matches b') : Together b b' b b' := ⟨.refl b, .refl b', h⟩

theorem trans (h : Together b b' c c') (g : Together c c' d d') : Together b b' d d' :=
  ⟨h.grows.trans g.grows, h.grows'.trans g.grows', g.matched⟩

theorem echo (h : Together b b' c c') (echo : b.Echo b' p p') : c.Echo c' p p' :=
  echo.later h.grows h.grows'

theorem literal (h : Together b b' c c') (echoes : l.Echoes (b.Echo b') l') :
    l.Echoes (c.Echo c') l' :=
  echoes.mono h.echo

theorem literals {ls ls' : List Literal} (h : Together b b' c c')
    (echoes : List.Forall₂ (Literal.Echoes (b.Echo b')) ls ls') :
    List.Forall₂ (Literal.Echoes (c.Echo c')) ls ls' :=
  forall₂_echoes_mono echoes h.echo

theorem lt_size (h : Together b b' c c') (hi : i < b.beings.size) : i < c.beings.size :=
  h.grows.lt_size hi

/-- Steps for one thing after another, on both sides. -/
theorem foldl {α : Type} {f g : Blueprint → α → Blueprint} (xs : List α) (h : b.Matches b')
    (step : ∀ c c', Together b b' c c' → ∀ x ∈ xs, Together c c' (f c x) (g c' x)) :
    Together b b' (xs.foldl f b) (xs.foldl g b') := by
  induction xs generalizing b b' with
  | nil => exact .refl h
  | cons x rest ih =>
    have first := step b b' (.refl h) x List.mem_cons_self
    exact first.trans (ih first.matched fun c c' together y mem =>
      step c c' (first.trans together) y (List.mem_cons_of_mem _ mem))

/-- Steps for one thing after another, where both sides have gone on before. -/
theorem followed {α : Type} {f g : Blueprint → α → Blueprint} (xs : List α)
    (h : Together b b' c c')
    (step : ∀ d d', Together b b' d d' → ∀ x ∈ xs, Together d d' (f d x) (g d' x)) :
    Together b b' (xs.foldl f c) (xs.foldl g c') :=
  h.trans (.foldl xs h.matched fun d d' together => step d d' (h.trans together))

end Together

/-- To ask whether a being is of a kind demands nothing but that it is not, if it cannot be. -/
theorem demands_isOf (demands : (b.isOf i kind).2.Demands constraint) : b.Demands constraint ∨
    b.couldBe i kind = false ∧ constraint = .clause [(b.isOf i kind).1.negative] := by
  rw [isOf_eq] at demands ⊢
  dsimp only at demands ⊢
  split_ifs at demands ⊢ with possible
  · exact .inl demands
  · refine (Problem.mem_constraints_add.mp demands).imp id fun denied => ⟨?_, denied⟩
    rw [Bool.or_eq_true, not_or, Bool.not_eq_true] at possible
    exact possible.1

namespace Matches

variable (h : b.Matches b')
include h

/-! ## What is the same on both sides -/

theorem couldBe_eq (i : Nat) (kind : Id .kind) : b'.couldBe i kind = b.couldBe i kind := by
  rw [couldBe, couldBe, h.underlies.couldBe_eq, (h.beings i).kinds]

theorem lt_size (hi : i < b.beings.size) : i < b'.beings.size := h.size ▸ hi

/-- No value is fixed of a property that is only there on the second side. -/
theorem fixedValue?_eq_none {id : Id .property} (other : ¬b.world.Owns id) :
    b.fixedValue? i id = none := by
  rw [fixedValue?, Option.bind_eq_none_iff]
  intro individual _
  rw [Option.map_eq_none_iff, List.find?_eq_none]
  intro entry mem same
  exact other (beq_iff_eq.mp same ▸ h.underlies.fixed individual entry mem)

/-! ## Steps that leave the beings alone -/

theorem demands_later (grows : b.Extends c) (grows' : b'.Extends c')
    (demands : b'.Demands constraint') :
    (∃ constraint, c.Demands constraint ∧ constraint.Echoes (c.Echo c') constraint') ∨
      c'.Furnishes c.world constraint' := by
  rcases h.demands constraint' demands with ⟨constraint, demands, echoes⟩ | furnishes
  · exact .inl ⟨constraint, grows.demands demands, echoes.mono fun echo => echo.later grows grows'⟩
  · rw [grows.world]
    exact .inr (furnishes.later grows')

theorem relation?_later (grows : b.Extends c) (grows' : b'.Extends c') (verb : Id .verb)
    (subject object : Nat) : Option.Rel (c.Echo c') (b.relation? verb subject object)
      (b'.relation? verb subject object) := by
  have echoes := h.relation? verb subject object
  generalize b.relation? verb subject object = p? at echoes ⊢
  generalize b'.relation? verb subject object = p'? at echoes ⊢
  cases echoes with
  | some echo => exact .some (echo.later grows grows')
  | none => exact .none

/-- Both sides go on and relate no beings. What the second comes to demand by that the first
demands, too. -/
theorem goOn (grows : b.Extends c) (grows' : b'.Extends c') (valid : c.Valid) (valid' : c'.Valid)
    (size : c'.beings.size = c.beings.size)
    (beings : ∀ i, (c.being i).Resembles b.world (c'.being i))
    (fixed : ∀ i id, c'.fixedValue? i id = c.fixedValue? i id)
    (asserted : c'.asserted = c.asserted) (expanded : c'.expanded = c.expanded)
    (relations : c.relations = b.relations ∧ c.relationIndex = b.relationIndex)
    (relations' : c'.relations = b'.relations ∧ c'.relationIndex = b'.relationIndex)
    (new : ∀ constraint', c'.Demands constraint' → b'.Demands constraint' ∨
      (∃ constraint, c.Demands constraint ∧ constraint.Echoes (c.Echo c') constraint') ∨
        c'.Furnishes c.world constraint') : Together b b' c c' := by
  refine ⟨grows, grows', valid, valid', grows.world ▸ grows'.world ▸ h.underlies, size,
    grows.world ▸ beings, fixed, asserted, expanded, ?_, fun verb subject object => ?_,
    fun constraint' demands => ?_⟩
  · rw [relations.1, relations'.1]
    exact h.relations.imp fun _ _ echoes => echoes.later grows grows'
  · rw [Blueprint.relation?, Blueprint.relation?, relations.2, relations'.2]
    exact h.relation?_later grows grows' verb subject object
  · rcases new constraint' demands with old | new
    · exact h.demands_later grows grows' old
    · exact new

/-- Both sides go on with steps that only change the problem and what has been denied. What the
second comes to demand by that the first demands, too. -/
theorem quiet (step : b.Advances c) (same : b.Quiet c) (step' : b'.Advances c')
    (same' : b'.Quiet c')
    (new : ∀ constraint', c'.Demands constraint' → b'.Demands constraint' ∨
      (∃ constraint, c.Demands constraint ∧ constraint.Echoes (c.Echo c') constraint') ∨
        c'.Furnishes c.world constraint') : Together b b' c c' := by
  have still := same.still
  have still' := same'.still
  refine h.goOn step.grows step'.grows step.valid step'.valid
    (still'.size.trans (h.size.trans still.size.symm)) (fun i => ?_) (fun i id => ?_)
    (still'.asserted.trans (h.asserted.trans still.asserted.symm))
    (still'.expanded.trans (h.expanded.trans still.expanded.symm))
    ⟨same.relations, same.relationIndex⟩ ⟨same'.relations, same'.relationIndex⟩ new
  · rw [same.being, same'.being]
    exact h.beings i
  · rw [fixedValue?, fixedValue?, same.being, same'.being, same.world, same'.world]
    exact h.fixed i id

/-- Both sides add a constraint that says the same. -/
theorem add (echoes : constraint.Echoes (b.Echo b') constraint') :
    Together b b' (b.modifyProblem (·.add constraint)) (b'.modifyProblem (·.add constraint')) := by
  obtain ⟨own, own'⟩ := echoes.propositions
  obtain ⟨step, demands⟩ := h.valid.advances_add fun p hp => (own p hp).choose_spec.has.1
  obtain ⟨step', -⟩ := h.valid'.advances_add fun p hp => (own' p hp).choose_spec.has.2
  refine h.quiet step (.modifyProblem (.refl b) _) step' (.modifyProblem (.refl b') _) ?_
  intro other mem
  refine (Problem.mem_constraints_add.mp mem).imp id ?_
  rintro rfl
  exact .inl ⟨constraint, demands, echoes.mono fun echo => echo.later step.grows step'.grows⟩

theorem clause {ls ls' : List Literal} (same : List.Forall₂ (Literal.Echoes (b.Echo b')) ls ls') :
    Together b b' (b.modifyProblem (·.clause ls)) (b'.modifyProblem (·.clause ls')) :=
  h.add (.clause same)

/-! ## Literals -/

theorem isOf (hi : i < b.beings.size) (kind : Id .kind) :
    Together b b' (b.isOf i kind).2 (b'.isOf i kind).2 ∧
      (b.isOf i kind).2.Echo (b'.isOf i kind).2 (b.isOf i kind).1 (b'.isOf i kind).1 := by
  obtain ⟨step, names⟩ := h.valid.isOf hi kind
  obtain ⟨step', names'⟩ := h.valid'.isOf (h.lt_size hi) kind
  have echo : (b.isOf i kind).2.Echo (b'.isOf i kind).2 (b.isOf i kind).1 (b'.isOf i kind).1 :=
    ⟨.quality i (.kind kind), ⟨step.grows.lt_size hi, names.name?⟩,
      ⟨step'.grows.lt_size (h.lt_size hi), names'.name?⟩⟩
  refine ⟨h.quiet step (quiet_isOf b i kind) step' (quiet_isOf b' i kind) ?_, echo⟩
  -- the second denies only what cannot be, and that is denied on the first side, too
  intro constraint' demands
  refine (demands_isOf demands).imp id ?_
  rintro ⟨could, rfl⟩
  have could : (b.isOf i kind).2.couldBe i kind = false := by
    rw [step.grows.couldBe_eq hi, ← h.couldBe_eq, could]
  exact .inl ⟨_, names.denied kind rfl could, .clause (.cons (.negative echo) .nil)⟩

theorem literal (hi : i < b.beings.size) (trait : Trait) :
    Together b b' (b.literal i trait).2 (b'.literal i trait).2 ∧
      (b.literal i trait).1.Echoes ((b.literal i trait).2.Echo (b'.literal i trait).2)
        (b'.literal i trait).1 := by
  obtain ⟨quality, positive⟩ := trait
  cases quality with
  | kind kind =>
    obtain ⟨together, echo⟩ := h.isOf hi kind
    exact ⟨together, echo, rfl⟩
  | adjective adjective =>
    obtain ⟨step, names⟩ := h.valid.has hi adjective
    obtain ⟨step', names'⟩ := h.valid'.has (h.lt_size hi) adjective
    refine ⟨h.quiet step (quiet_has b i adjective) step' (quiet_has b' i adjective)
      fun _ => .inl, ?_, rfl⟩
    exact ⟨.quality i (.adjective adjective), ⟨step.grows.lt_size hi, names.name?⟩,
      ⟨step'.grows.lt_size (h.lt_size hi), names'.name?⟩⟩

theorem literals (hi : i < b.beings.size) (traits : List Trait) :
    Together b b' (b.literals i traits).2 (b'.literals i traits).2 ∧
      List.Forall₂ (Literal.Echoes ((b.literals i traits).2.Echo (b'.literals i traits).2))
        (b.literals i traits).1 (b'.literals i traits).1 := by
  induction traits generalizing b b' with
  | nil => exact ⟨.refl h, .nil⟩
  | cons trait rest ih =>
    obtain ⟨first, echoes⟩ := h.literal hi trait
    obtain ⟨others, each⟩ := ih first.matched (first.lt_size hi)
    exact ⟨first.trans others, .cons (others.literal echoes) each⟩

theorem memberships (hi : i < b.beings.size) (kinds : List (Id .kind)) :
    Together b b' (b.memberships i kinds).2 (b'.memberships i kinds).2 ∧
      List.Forall₂ (Literal.Echoes ((b.memberships i kinds).2.Echo (b'.memberships i kinds).2))
        (b.memberships i kinds).1 (b'.memberships i kinds).1 := by
  induction kinds generalizing b b' with
  | nil => exact ⟨.refl h, .nil⟩
  | cons kind rest ih =>
    obtain ⟨first, echo⟩ := h.isOf hi kind
    obtain ⟨others, each⟩ := ih first.matched (first.lt_size hi)
    exact ⟨first.trans others, .cons (.positive (others.echo echo)) each⟩

/-! ## What membership entails -/

theorem assertTrait (hi : i < b.beings.size) (trait : Trait) :
    Together b b' (assertTrait i b trait) (assertTrait i b' trait) := by
  obtain ⟨made, echoes⟩ := h.literal hi trait
  exact made.trans (made.matched.clause (.cons echoes .nil))

variable (echoes : member.Echoes (b.Echo b') member') (hi : i < b.beings.size)
include echoes hi

theorem chooseSubkind (subkinds : List (Id .kind)) :
    Together b b' (chooseSubkind i member subkinds b) (chooseSubkind i member' subkinds b') := by
  unfold Blueprint.chooseSubkind
  split_ifs with none
  · exact .refl h
  · obtain ⟨made, each⟩ := h.memberships hi subkinds
    have all := List.Forall₂.cons (made.literal echoes).negate each
    exact made.trans (made.matched.add (.between 1 1 all))

theorem implySuperkind (parent : Id .kind) : Together b b' (implySuperkind i member parent b)
    (implySuperkind i member' parent b') := by
  obtain ⟨made, echo⟩ := h.isOf hi parent
  exact made.trans (made.matched.clause
    (.cons (made.literal echoes).negate (.cons (.positive echo) .nil)))

theorem addImplication (implication : Implication) :
    Together b b' (addImplication i member b implication)
      (addImplication i member' b' implication) := by
  obtain ⟨conditioned, conditions⟩ := h.literals hi implication.conditions
  obtain ⟨made, consequent⟩ :=
    conditioned.matched.literal (conditioned.lt_size hi) implication.consequent
  have both := conditioned.trans made
  have negated := forall₂_echoes_negate (made.literals conditions)
  exact both.trans (made.matched.clause
    (.cons (both.literal echoes).negate (List.rel_append negated (.cons consequent .nil))))

theorem addAlternatives (set : AlternativeSet) :
    Together b b' (addAlternatives i member b set) (addAlternatives i member' b' set) := by
  obtain ⟨made, each⟩ := h.literals hi set.alternatives
  exact made.trans (made.matched.add (.guarded set.low set.high (made.literal echoes) each))

end Matches

end Blueprint

end Worldsmith
