import Worldsmith.Proofs.Comparison.Relations

/-!
# Truth carried over

Where one blueprint demands no more than another, but for menus of further properties, what is true
on the one side can be true on the other. Of a further menu the first value is taken where its
guard holds.

## Main definitions

* `Blueprint.carried` — what is true on the second side, given what is true on the first.

## Main statements

* `Blueprint.Matches.satisfiable` — the second problem is satisfiable if the first is.
-/

namespace Worldsmith

namespace Blueprint

variable {b b' : Blueprint} {s t : Saying} {p q p' q' guard : Proposition} {v : Valuation}
  {choices : List Proposition} {i j : Nat} {id id' : Id .property} {value value' : String}
  {quality : Quality} {constraint : Constraint}

/-- Whether a proposition of the second side says what is true on the first. -/
def Told (b b' : Blueprint) (v : Valuation) (p' : Proposition) : Prop :=
  ∃ p, b.Echo b' p p' ∧ v p = true

/-- Whether a proposition says that a further property takes the first value of its menu, and the
guard of the menu is true. -/
structure Takes (b b' : Blueprint) (v : Valuation) (p' : Proposition) (i : Nat)
    (id : Id .property) (value : String) : Prop where
  other : ¬b.world.Owns id
  said : b'.Says p' (.choice i id value)
  first : ∃ source values restrictions,
    (b'.world.property id).domain = .menu source (value :: values) restrictions
  guarded : ∃ guard, b'.Says guard (.quality i (.kind (b'.world.property id).owner)) ∧
    b.Told b' v guard

open Classical in
/-- What is true on the second side, given what is true on the first. -/
noncomputable def carried (b b' : Blueprint) (v : Valuation) : Valuation := fun p' =>
  decide (b.Told b' v p' ∨ ∃ i id value, b.Takes b' v p' i id value)

theorem carried_eq_true : b.carried b' v p' = true ↔
    b.Told b' v p' ∨ ∃ i id value, b.Takes b' v p' i id value := by
  classical exact decide_eq_true_iff

theorem carried_quality (legible' : b'.Legible) (said : b'.Says p' (.quality i quality)) :
    b.carried b' v p' = true ↔ b.Told b' v p' := by
  rw [carried_eq_true, or_iff_left]
  rintro ⟨j, id, value, takes⟩
  cases (legible'.eq_iff_equates said takes.said).mp rfl

namespace Matches

variable (h : b.Matches b')
include h

/-- What the first side can say comes to the same on both sides. -/
theorem equates_iff (treats : b.Treats s) (treats' : b.Treats t) :
    b.world.Equates s t ↔ b'.world.Equates s t := by
  have carry {world world' : World}
      (quality : ∀ q, world'.qualityName q = world.qualityName q)
      (verb : ∀ verb, world'.verb verb = world.verb verb)
      (property : ∀ id : Id .property, b.world.Owns id → world'.property id = world.property id)
      (equates : world.Equates s t) : world'.Equates s t := by
    cases equates with
    | quality i same => exact .quality i (by rw [quality, quality, same])
    | relation same => exact .relation (by rwa [World.Coincide, verb])
    | choice i value same =>
      exact .choice i value (by rw [property _ treats.1, property _ treats'.1, same])
  have properties := h.underlies.property
  exact ⟨carry h.underlies.qualityName h.underlies.verb_eq properties,
    carry (fun q => (h.underlies.qualityName q).symm) (fun verb => (h.underlies.verb_eq verb).symm)
      fun id own => (properties id own).symm⟩

section Legible

variable (legible : b.Legible) (legible' : b'.Legible)
include legible'

/-- What a choice of a property says is only said of a property of that name. -/
theorem eq_of_choices (other : ¬b.world.Owns id) (said : b'.Says p' (.choice i id value))
    (said' : b'.Says p' (.choice j id' value')) : j = i ∧ id' = id ∧ value' = value := by
  cases (legible'.eq_iff_equates said said').mp rfl with
  | choice _ _ same =>
    exact ⟨rfl, (h.underlies.eq_of_name id id' said.treats.1 said'.treats.1 other same).symm, rfl⟩

/-- What both sides say is no choice of a further property. -/
theorem not_echo_of_choice (other : ¬b.world.Owns id) (said : b'.Says p' (.choice i id value)) :
    ¬b.Echo b' p p' := by
  rintro ⟨s, saidLeft, saidRight⟩
  cases (legible'.eq_iff_equates said saidRight).mp rfl with
  | @choice _ _ id' _ same =>
    have known : b.world.Owns id' := saidLeft.treats.1
    obtain rfl := h.underlies.eq_of_name id id' said.treats.1 saidRight.treats.1 other same
    exact other known

include legible in
/-- Propositions that say the same have the same value on both sides. -/
theorem agrees_carried (v : Valuation) : v.Agrees (b.Echo b') (b.carried b' v) := by
  have apart {p p' q q' : Proposition} (echo : b.Echo b' p p') (echo' : b.Echo b' q q') :
      p = q ↔ p' = q' := by
    obtain ⟨s, said, said'⟩ := echo
    obtain ⟨t, told, told'⟩ := echo'
    rw [legible.eq_iff_equates said told, legible'.eq_iff_equates said' told',
      h.equates_iff said.treats told.treats]
  refine ⟨apart, fun {p p'} echo => ?_⟩
  rw [Bool.eq_iff_iff, carried_eq_true]
  constructor
  · rintro (⟨q, echo', true⟩ | ⟨i, id, value, takes⟩)
    · exact (apart echo echo').mpr rfl ▸ true
    · exact absurd echo (h.not_echo_of_choice legible' takes.other takes.said)
  · exact fun true => .inl ⟨p, echo, true⟩

/-- A further choice is true just if it is the first and its guard is told to be true. -/
theorem carried_choice {source : String} {first : String} {values : List String}
    {restrictions : List MenuRestriction} (other : ¬b.world.Owns id)
    (domain : (b'.world.property id).domain = .menu source (first :: values) restrictions)
    (said : b'.Says p' (.choice i id value))
    (saidGuard : b'.Says guard (.quality i (.kind (b'.world.property id).owner))) :
    b.carried b' v p' = true ↔ value = first ∧ b.Told b' v guard := by
  rw [carried_eq_true]
  constructor
  · rintro (⟨q, echo, -⟩ | ⟨j, id', value', takes⟩)
    · exact absurd echo (h.not_echo_of_choice legible' other said)
    · obtain ⟨rfl, rfl, rfl⟩ := h.eq_of_choices legible' other said takes.said
      obtain ⟨source', values', restrictions', domain'⟩ := takes.first
      obtain ⟨guard', saidGuard', told⟩ := takes.guarded
      obtain rfl : guard' = guard :=
        (legible'.eq_iff_equates saidGuard' saidGuard).mpr (.quality _ rfl)
      rw [domain] at domain'
      cases domain'
      exact ⟨rfl, told⟩
  · rintro ⟨rfl, told⟩
    exact .inr ⟨i, id, value, other, said, ⟨source, values, restrictions, domain⟩,
      guard, saidGuard, told⟩

/-- The menu of a further property has a first value, and nothing more is asked of its value. -/
theorem holds_of_furnishes (furnishes : b'.Furnishes b.world constraint) :
    constraint.holds (b.carried b' v).satisfies = true := by
  have menu {i : Nat} {id : Id .property} {guard : Proposition} {choices : List Proposition}
      (other : ¬b.world.Owns id) (offers : b'.Offers i id guard choices) :
      ∃ source first values restrictions, (b'.world.property id).domain =
        .menu source (first :: values) restrictions ∧
        List.Forall₂ (fun p value => b'.Says p (.choice i id value)) choices (first :: values) := by
    obtain ⟨own, -, source, values, restrictions, domain, each⟩ := offers
    have fresh := h.underlies.fresh id own other
    rw [domain] at fresh
    cases values with
    | nil => exact absurd rfl fresh.1
    | cons first values => exact ⟨source, first, values, restrictions, domain, each⟩
  cases furnishes with
  | @implies i id guard choices choice other offers mem =>
    obtain ⟨source, first, values, restrictions, domain, each⟩ := menu other offers
    obtain ⟨value, -, said⟩ := exists_of_forall₂_left each choice mem
    have value := h.carried_choice (v := v) legible' other domain said offers.guard
    rw [Constraint.holds_clause_iff]
    by_cases taken : b.carried b' v choice = true
    · refine ⟨guard.positive, by simp, ?_⟩
      exact Valuation.satisfies_iff.mpr
        ((carried_quality legible' offers.guard).mpr (value.mp taken).2)
    · refine ⟨choice.negative, by simp, ?_⟩
      exact Valuation.satisfies_iff.mpr (Bool.eq_false_of_not_eq_true taken)
  | @one i id guard choices other offers =>
    obtain ⟨source, first, values, restrictions, domain, each⟩ := menu other offers
    rw [Constraint.holds_guarded_iff]
    intro holds
    have told := (carried_quality legible' offers.guard).mp (Valuation.satisfies_iff.mp holds)
    obtain ⟨choice, rest, said, -, rfl⟩ := List.forall₂_cons_right_iff.mp each
    have one : (((choice :: rest).map Proposition.positive).eraseDups.countP
        (b.carried b' v).satisfies) = 1 := by
      refine countP_eraseDups_eq_one_iff.mpr ⟨choice.positive, ⟨by simp, ?_⟩, ?_⟩
      · exact Valuation.satisfies_iff.mpr
          ((h.carried_choice legible' other domain said offers.guard).mpr ⟨rfl, told⟩)
      · rintro l ⟨among, true⟩
        obtain ⟨p, mem, rfl⟩ := List.mem_map.mp among
        obtain ⟨value, -, said'⟩ := exists_of_forall₂_left each p mem
        obtain ⟨rfl, -⟩ := (h.carried_choice legible' other domain said' offers.guard).mp
          (Valuation.satisfies_iff.mp true)
        rw [(legible'.eq_iff_equates said' said).mpr (.choice i _ rfl)]
    exact ⟨one.ge, one.le⟩

include legible in
/-- The second problem is satisfiable if the first is. -/
theorem satisfiable (sat : b.problem.Satisfiable) : b'.problem.Satisfiable := by
  obtain ⟨v, satisfied⟩ := sat
  refine ⟨b.carried b' v, fun constraint' demands => ?_⟩
  rcases h.demands constraint' demands with ⟨constraint, demands, echoes⟩ | furnishes
  · rw [echoes.holds_eq (h.agrees_carried legible legible' v)]
    exact satisfied constraint demands
  · exact h.holds_of_furnishes legible' furnishes

end Legible

end Matches

end Blueprint

end Worldsmith
