import Worldsmith.Proofs.Statement.Declarations
import Worldsmith.Proofs.World.Additions
import Worldsmith.Proofs.World.Registry

/-!
# Sentences that introduce an individual

A sentence may say of a new name that it is an individual of a kind, with some traits in front of
the kind.

## Main definitions

* `Modifier.States` — a modifier mentions the quality that a trait states.
* `Reading.Introduces` — a reading says of a new name that it is an individual of a kind.

## Main statements

* `Reading.Introduces.leads` — what such a sentence makes of the world.
-/

namespace Worldsmith

open Edit

/-- Whether a modifier mentions, as something that is known, the quality that a trait states. -/
def Modifier.States (modifier : Modifier) (trait : Trait) : Prop :=
  ∃ concept, modifier = ⟨.known concept, trait.positive⟩ ∧ concept.quality? = some trait.quality

/-- Whether a reading says of a new name that it is an individual of a kind, with some traits. -/
structure Reading.Introduces (reading : Reading) (name : Name) (kind : Id .kind)
    (traits : List Trait) : Prop where
  coinages : reading.coinages = [.individual name]
  subject : ∃ phrase, reading.noun 0 = .ok phrase ∧ phrase.head = .coined 0
  object : ∃ phrase, reading.noun 1 = .ok phrase ∧ phrase.head = .known (.kind kind) ∧
    List.Forall₂ Modifier.States phrase.modifiers traits

variable {world : World} {reading : Reading} {name : Name} {kind : Id .kind} {traits : List Trait}

theorem Coinage.leads_mapM_individual (name : Name) :
    Leads (· = world) ([Coinage.individual name].mapM Coinage.create) fun coined later =>
      coined = [.individual ⟨world.individuals.size⟩] ∧
        ∃ lexicon, later = world.christen lexicon name := by
  have added : Leads (· = world) (addIndividual name) fun id later =>
      id = ⟨world.individuals.size⟩ ∧ ∃ lexicon, later = world.christen lexicon name := by
    refine .of_get ?_
    rintro _ rfl
    refine .bind (leads_register_eq _ _ _) fun _ => .bind leads_modify_eq fun _ => .of_pure _ ?_
    rintro _ rfl
    exact ⟨rfl, _, rfl⟩
  rw [List.mapM_cons, List.mapM_nil, Coinage.create]
  simp only [bind_assoc, pure_bind]
  exact .bind added fun id => .of_pure _ fun later made => ⟨by rw [made.1], made.2⟩

theorem Statement.modifiers_of_states (s : Statement) {phrase : NounPhrase}
    (known : List.Forall₂ Modifier.States phrase.modifiers traits) :
    s.modifiers phrase = .ok traits := by
  rw [Statement.modifiers]
  generalize phrase.modifiers = modifiers at known ⊢
  induction known with
  | nil => rfl
  | @cons _ trait _ _ stands _ ih =>
    obtain ⟨quality, positive⟩ := trait
    obtain ⟨concept, rfl, same⟩ := stands
    rw [List.mapM_cons, ih]
    cases concept <;> cases same <;> rfl

/-- What such a sentence makes of the world. -/
theorem Reading.Introduces.leads (introduces : reading.Introduces name kind traits)
    (line : String) (menu : String → Except ResourceError (List String)) :
    Leads (· = world) (reading.perform line menu .membership) fun _ later =>
      ∃ lexicon, later = world.introduce lexicon name kind traits := by
  obtain ⟨coinages, ⟨who, first, coined⟩, what, second, head, known⟩ := introduces
  unfold Reading.perform
  rw [coinages]
  refine .bind (Coinage.leads_mapM_individual name) fun made => .of_each fun named => ?_
  rintro ⟨rfl, lexicon, rfl⟩
  have told : Leads (· = world.christen lexicon name)
      (Statement.membership ⟨line, reading, [.individual ⟨world.individuals.size⟩], menu⟩)
      fun _ later => later = world.introduce lexicon name kind traits := by
    refine .of_lift fun phrase read => .of_lift fun individual who => .of_lift fun phrase' read' =>
      .of_lift fun found what => .of_lift fun stated said => ?_
    obtain rfl := Except.ok.inj (first.symm.trans read)
    obtain rfl := Except.ok.inj (second.symm.trans read')
    rw [Statement.individual, coined] at who
    rw [Statement.kind, head] at what
    rw [Statement.modifiers_of_states _ known] at said
    cases who
    cases what
    cases said
    exact leads_modify_eq
  exact .bind told fun _ => .of_pure _ fun later same => ⟨lexicon, same⟩

end Worldsmith
