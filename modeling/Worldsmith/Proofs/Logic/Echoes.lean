import Worldsmith.Proofs.Lists
import Worldsmith.Proofs.Logic.Building
import Worldsmith.Proofs.Logic.Satisfaction

/-!
# Constraints on other propositions

A constraint of one problem may say of its propositions what a constraint of another problem says of
other propositions. Where it is known which proposition goes with which, and no two of one problem
go with one of the other, both constraints hold under valuations that agree.

## Main definitions

* `Constraint.Echoes` — two constraints say the same of propositions that go with each other.
* `Valuation.Agrees` — propositions that go with each other are told apart in both problems, and
  have the same value.

## Main statements

* `Constraint.Echoes.holds_eq` — under valuations that agree, one holds if the other does.
-/

namespace Worldsmith

variable {goes goes' : Proposition → Proposition → Prop} {l l' : Literal}
  {literals literals' : List Literal} {p q p' q' : Proposition} {v v' : Valuation}
  {constraint constraint' : Constraint}

/-- Whether two literals say the same of propositions that go with each other. -/
def Literal.Echoes (goes : Proposition → Proposition → Prop) (l l' : Literal) : Prop :=
  goes l.proposition l'.proposition ∧ l.positive = l'.positive

/-- Whether two constraints say the same of propositions that go with each other. They need not come
to the same length if there is nothing to tell repeated literals by. -/
inductive Constraint.Echoes (goes : Proposition → Proposition → Prop) :
    Constraint → Constraint → Prop where
  | clause {ls ls' : List Literal} (same : List.Forall₂ (Literal.Echoes goes) ls ls') :
      Echoes goes (.clause ls.eraseDups) (.clause ls'.eraseDups)
  | between (low high : Nat) {ls ls' : List Literal}
      (same : List.Forall₂ (Literal.Echoes goes) ls ls') :
      Echoes goes (.between low high ls.eraseDups) (.between low high ls'.eraseDups)
  | guarded (low high : Nat) {guard guard' : Literal} {ls ls' : List Literal}
      (said : guard.Echoes goes guard') (same : List.Forall₂ (Literal.Echoes goes) ls ls') :
      Echoes goes ((Constraint.between low high ls.eraseDups).guarded guard)
        ((Constraint.between low high ls'.eraseDups).guarded guard')

/-- Whether propositions that go with each other are told apart in both problems, and have the same
value. -/
structure Valuation.Agrees (goes : Proposition → Proposition → Prop) (v v' : Valuation) :
    Prop where
  eq_iff : ∀ {p p' q q' : Proposition}, goes p p' → goes q q' → (p = q ↔ p' = q')
  value : ∀ {p p' : Proposition}, goes p p' → v' p' = v p

namespace Literal.Echoes

theorem positive (h : goes p p') : p.positive.Echoes goes p'.positive := ⟨h, rfl⟩

theorem negative (h : goes p p') : p.negative.Echoes goes p'.negative := ⟨h, rfl⟩

theorem negate (h : l.Echoes goes l') : l.negate.Echoes goes l'.negate :=
  ⟨h.1, congrArg not h.2⟩

theorem mono (h : l.Echoes goes l') (later : ∀ {p p'}, goes p p' → goes' p p') :
    l.Echoes goes' l' := ⟨later h.1, h.2⟩

theorem eq_iff (agrees : v.Agrees goes v') {m m' : Literal} (h : l.Echoes goes l')
    (h' : m.Echoes goes m') : l = m ↔ l' = m' := by
  have propositions := agrees.eq_iff h.1 h'.1
  have signs := h.2
  have signs' := h'.2
  cases l; cases m; cases l'; cases m'
  simp_all

theorem satisfies_eq (agrees : v.Agrees goes v') (h : l.Echoes goes l') :
    v'.satisfies l' = v.satisfies l := by
  rw [Valuation.satisfies, Valuation.satisfies, agrees.value h.1, h.2]

end Literal.Echoes

theorem forall₂_echoes_mono (h : List.Forall₂ (Literal.Echoes goes) literals literals')
    (later : ∀ {p p'}, goes p p' → goes' p p') :
    List.Forall₂ (Literal.Echoes goes') literals literals' :=
  h.imp fun _ _ echoes => echoes.mono later

theorem forall₂_echoes_negate (h : List.Forall₂ (Literal.Echoes goes) literals literals') :
    List.Forall₂ (Literal.Echoes goes) (literals.map Literal.negate)
      (literals'.map Literal.negate) := by
  rw [List.forall₂_map_left_iff, List.forall₂_map_right_iff]
  exact h.imp fun _ _ => .negate

theorem forall₂_echoes_positive {ps ps' : List Proposition} (h : List.Forall₂ goes ps ps') :
    List.Forall₂ (Literal.Echoes goes) (ps.map Proposition.positive)
      (ps'.map Proposition.positive) := by
  rw [List.forall₂_map_left_iff, List.forall₂_map_right_iff]
  exact h.imp fun _ _ => .positive

namespace Constraint.Echoes

theorem mono (h : constraint.Echoes goes constraint')
    (later : ∀ {p p'}, goes p p' → goes' p p') : constraint.Echoes goes' constraint' := by
  cases h with
  | clause same => exact .clause (forall₂_echoes_mono same later)
  | between low high same => exact .between low high (forall₂_echoes_mono same later)
  | guarded low high said same =>
    exact .guarded low high (said.mono later) (forall₂_echoes_mono same later)

/-- The propositions of both constraints go with some. -/
theorem propositions (h : constraint.Echoes goes constraint') :
    (∀ p ∈ constraint.propositions, ∃ p', goes p p') ∧
      ∀ p' ∈ constraint'.propositions, ∃ p, goes p p' := by
  have left {ls ls' : List Literal} (same : List.Forall₂ (Literal.Echoes goes) ls ls') :
      (∀ l ∈ ls, ∃ p', goes l.proposition p') ∧ ∀ l' ∈ ls', ∃ p, goes p l'.proposition := by
    induction same with
    | nil => simp
    | cons echoes _ ih =>
      exact ⟨List.forall_mem_cons.mpr ⟨⟨_, echoes.1⟩, ih.1⟩,
        List.forall_mem_cons.mpr ⟨⟨_, echoes.1⟩, ih.2⟩⟩
  cases h with
  | clause same | between low high same =>
    obtain ⟨first, second⟩ := left same
    constructor
    all_goals
      intro p hp
      obtain ⟨l, hl, rfl⟩ := Problem.mem_propositions_between.mp hp
    · exact first l hl
    · exact second l hl
  | guarded low high said same =>
    obtain ⟨first, second⟩ := left (.cons said same)
    constructor
    all_goals intro p hp
    · rcases Problem.mem_propositions_guarded.mp hp with rfl | ⟨l, hl, rfl⟩
      · exact first _ List.mem_cons_self
      · exact first l (List.mem_cons_of_mem _ hl)
    · rcases Problem.mem_propositions_guarded.mp hp with rfl | ⟨l, hl, rfl⟩
      · exact second _ List.mem_cons_self
      · exact second l (List.mem_cons_of_mem _ hl)

/-- Under valuations that agree, one constraint holds if the other does. -/
theorem holds_eq (agrees : v.Agrees goes v') (h : constraint.Echoes goes constraint') :
    constraint'.holds v'.satisfies = constraint.holds v.satisfies := by
  have erased {ls ls' : List Literal} (same : List.Forall₂ (Literal.Echoes goes) ls ls') :
      List.Forall₂ (Literal.Echoes goes) ls.eraseDups ls'.eraseDups :=
    forall₂_eraseDups (fun h h' => h.eq_iff agrees h') same
  have count {ls ls' : List Literal} (same : List.Forall₂ (Literal.Echoes goes) ls ls') :
      ls'.eraseDups.countP v'.satisfies = ls.eraseDups.countP v.satisfies :=
    (countP_of_forall₂ (erased same) fun echoes => (echoes.satisfies_eq agrees).symm).symm
  have alike (c c' : Constraint)
      (guards : c'.guard.any (!v'.satisfies ·) = c.guard.any (!v.satisfies ·))
      (counts : c'.literals.countP v'.satisfies = c.literals.countP v.satisfies)
      (lows : c'.low = c.low) (highs : c'.high = c.high) :
      c'.holds v'.satisfies = c.holds v.satisfies := by
    rw [holds, holds, isMet, isMet, guards, counts, lows, highs]
  cases h with
  | clause same => exact alike _ _ rfl (count same) rfl (erased same).length_eq.symm
  | between low high same => exact alike _ _ rfl (count same) rfl rfl
  | guarded low high said same =>
    have guards := congrArg not (said.satisfies_eq agrees)
    exact alike _ _ guards (count same) rfl rfl

end Constraint.Echoes

end Worldsmith
