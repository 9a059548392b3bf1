import Worldsmith.Proofs.World.Edits
import Worldsmith.Proofs.World.References

/-!
# Edits make changes

An edit that is about concepts of a sound world makes changes of the world, one after another. What
it creates is named before it is there, which is made good before the edit ends.

## Main definitions

* `World.Evolves` — a world is in order and has come of another by changes.
-/

namespace Worldsmith

namespace World

variable {base world world' : World} {concept : Concept} {kind above : Id .kind}

/-- Whether a world is sound and closed, and has come of another by changes. -/
structure Evolves (base world : World) : Prop where
  sound : world.IsSound
  closed : world.IsClosed
  becomes : base.Becomes world

theorem evolves_empty : empty.Evolves empty := ⟨isSound_empty, isClosed_empty, .refl⟩

theorem Evolves.refl (h : base.Evolves world) : world.Evolves world := ⟨h.sound, h.closed, .refl⟩

theorem Evolves.trans (h : base.Evolves world) (g : world.Evolves world') : base.Evolves world' :=
  ⟨g.sound, g.closed, h.becomes.trans g.becomes⟩

theorem Evolves.grows (h : base.Evolves world) : base.Grows world := h.becomes.grows

theorem Evolves.of_becomes (h : base.Evolves world) (becomes : world.Becomes world') :
    base.Evolves world' :=
  ⟨becomes.isSound h.sound, becomes.isClosed h.closed,
    h.becomes.trans becomes⟩

theorem Evolves.of_change (h : base.Evolves world) (change : world.Change world') :
    base.Evolves world' :=
  h.of_becomes (.single change)

/-- Whether a world is another but for its names, which may also stand for a concept that is still
to be made. -/
def Announces (base : World) (concept : Concept) (world : World) : Prop :=
  ∃ lexicon, world = { base with lexicon := lexicon } ∧
    lexicon.Binds fun other => base.Holds other ∨ other = concept

theorem IsSound.announces (sound : world.IsSound) (concept : Concept) :
    world.Announces concept world :=
  ⟨world.lexicon, rfl, fun name entry known => .inl (sound.lexicon name entry known)⟩

/-! ## Where the hierarchy leads -/

theorem below_of_mem_ancestors (mem : above ∈ world.ancestors kind) : world.Below kind above := by
  refine forall_mem_spread (world.Below kind) ?_ _ ?_ ?_ above mem
  · exact fun k below next edge => below.tail edge
  · exact fun k hk => List.mem_singleton.mp hk ▸ .refl
  · exact fun k hk => List.mem_singleton.mp hk ▸ .refl

/-- What is found above two kinds is above both. -/
theorem below_of_leastUpperBound? {a b : Id .kind}
    (found : world.leastUpperBound? a b = some kind) :
    world.Below a kind ∧ world.Below b kind := by
  unfold leastUpperBound? at found
  split_ifs at found with below below
  · cases found
    exact ⟨below_of_isAWithin below, .refl⟩
  · cases found
    exact ⟨.refl, below_of_isAWithin below⟩
  · dsimp only at found
    split at found
    · rename_i least only
      cases found
      have common := List.mem_of_mem_filter (only ▸ List.mem_singleton_self kind)
      rw [List.mem_filter, List.contains_iff_mem] at common
      exact common.imp below_of_mem_ancestors below_of_mem_ancestors
    · cases found

theorem IsClosed.owns_of_findProperty? (closed : world.IsClosed) {name : Name}
    {property : Id .property} (found : world.findProperty? kind name = some property) :
    world.Owns property := by
  obtain ⟨k, -, listed⟩ := List.exists_of_findSome?_eq_some found
  exact (closed.kind k).properties property (List.mem_of_find?_eq_some listed)

/-! ## Adjectives -/

theorem becomes_makeTraitsRelevant {traits : List Trait} (owned : world.Owns kind)
    (traitsIn : ∀ trait ∈ traits, trait.IsIn world) :
    world.Becomes (world.makeTraitsRelevant kind traits) := by
  induction traits generalizing world with
  | nil => exact .refl
  | cons trait rest ih =>
    obtain ⟨first, others⟩ := List.forall_mem_cons.mp traitsIn
    have go {world' : World} (becomes : world.Becomes world') :
        world.Becomes (world'.makeTraitsRelevant kind rest) :=
      becomes.trans (ih (owned.mono becomes.grows) (forall_isIn_mono becomes.grows others))
    rw [makeTraitsRelevant, List.foldl_cons, ← makeTraitsRelevant]
    obtain ⟨_ | adjective, positive⟩ := trait
    · exact go .refl
    · dsimp only
      split_ifs
      · exact go .refl
      · exact go (.single (.relevant kind adjective owned first))

theorem becomes_foldl_makeTraitsRelevant {kinds : List (Id .kind)} {traits : List Trait}
    (owned : ∀ kind ∈ kinds, world.Owns kind) (traitsIn : ∀ trait ∈ traits, trait.IsIn world) :
    world.Becomes
      (kinds.foldl (fun world kind => world.makeTraitsRelevant kind traits) world) := by
  induction kinds generalizing world with
  | nil => exact .refl
  | cons kind rest ih =>
    obtain ⟨first, others⟩ := List.forall_mem_cons.mp owned
    have becomes := becomes_makeTraitsRelevant first traitsIn
    exact becomes.trans (ih (fun kind mem => (others kind mem).mono becomes.grows)
      (forall_isIn_mono becomes.grows traitsIn))

end World

namespace Edit

open World

variable {α : Type} {base world : World} {before : World → Prop} {concept : Concept}
  {name : Name} {form : WordForm}

theorem Preserves.of_becomes {f : World → World}
    (h : ∀ world, base.Evolves world → world.Becomes (f world)) :
    Preserves base.Evolves (modify f : Edit PUnit) :=
  .of_modify fun world evolves => evolves.of_becomes (h world evolves)

theorem Preserves.of_change {f : World → World}
    (h : ∀ world, base.Evolves world → world.Change (f world)) :
    Preserves base.Evolves (modify f : Edit PUnit) :=
  .of_becomes fun world evolves => .single (h world evolves)

/-- An edit of a world that has come later goes on from there. -/
theorem leads_of_later {edit : Edit α} (start : base.Evolves world)
    (h : Preserves world.Evolves edit) : Leads (· = world) edit fun _ => base.Evolves :=
  Leads.weaken h (fun _ same => same ▸ start.refl) fun _ _ => start.trans

/-! ## Names -/

theorem leads_register {after : Unit → World → Prop}
    (h : ∀ world, before world → after ()
      { world with lexicon := world.lexicon.store (some ⟨concept, form⟩) name }) :
    Leads before (register name concept form) after := by
  unfold register
  refine .of_get fun world start => ?_
  have store : Leads (· = world)
      (modify fun world : World =>
        { world with lexicon := world.lexicon.store (some ⟨concept, form⟩) name } : Edit Unit)
      after := by
    refine .of_modify ?_
    rintro _ rfl
    exact h _ start
  dsimp only
  split
  · split_ifs
    · exact .bind (.of_throw _) fun _ => store
    · exact store
  · exact store

theorem announces_register (name : Name) (form : WordForm) :
    Leads (base.Announces concept) (register name concept form)
      fun _ => base.Announces concept := by
  refine leads_register ?_
  rintro _ ⟨lexicon, rfl, binds⟩
  refine ⟨_, rfl, binds.store ?_ name⟩
  rintro _ ⟨⟩
  exact .inr rfl

theorem evolves_register (held : base.Holds concept) (name : Name) (form : WordForm) :
    Preserves base.Evolves (register name concept form) := by
  refine leads_register fun world h => h.of_change (.names _ ?_)
  refine h.sound.lexicon.store ?_ name
  rintro _ ⟨⟩
  exact h.grows.holds held

theorem evolves_bind (name : Name) {entry : Option (Entry Concept)}
    (held : ∀ found, entry = some found → base.Holds found.value) :
    Preserves base.Evolves (Edit.bind name entry) := by
  refine .of_change fun world h => .names _ ?_
  exact h.sound.lexicon.store (fun found known => h.grows.holds (held found known)) name

theorem evolves_setKindForm {id : Id .kind} (owned : base.Owns id) (name : Name)
    (number : GrammaticalNumber) : Preserves base.Evolves (setKindForm id name number) := by
  have held : base.Holds (.kind id) := owned
  have other (form : WordForm) (found : Entry Concept)
      (known : some ⟨.kind id, form⟩ = some found) : base.Holds found.value := by
    obtain rfl := Option.some.inj known
    exact held
  refine .of_get fun world => ?_
  cases number
  all_goals
    refine (evolves_bind _ (by simp)).bind fun _ => ?_
    dsimp only
    split_ifs
    · refine (evolves_register held name _).bind fun _ => .of_change fun world _ => ?_
      exact .kind id (.wording fun kind => ⟨_, _, _, _, rfl⟩)
    · refine (evolves_bind _ (other _)).bind fun _ =>
        (evolves_register held name _).bind fun _ => .of_change fun world _ => ?_
      exact .kind id (.wording fun kind => ⟨_, _, _, _, rfl⟩)

/-! ## New things -/

theorem evolves_bothForms (singular plural : Option Name) :
    Preserves base.Evolves (bothForms singular plural) := by
  rcases singular with _ | singular <;> rcases plural with _ | plural
  · exact .of_throw _
  · exact .bind (.of_grammatical _) fun _ => .of_pure _
  · exact .bind (.of_grammatical _) fun _ => .of_pure _
  · exact .of_pure _

/-- The end of an edit that has named a concept before it makes it. -/
theorem leads_made (concept : Concept) {f : World → World} (start : base.Evolves world)
    (change : ∀ lexicon, lexicon.Binds (fun other => world.Holds other ∨ other = concept) →
      world.Change (f { world with lexicon := lexicon }))
    (held : ∀ lexicon, (f { world with lexicon := lexicon }).Holds concept) :
    Leads (world.Announces concept) (modify f : Edit PUnit)
      fun _ later => base.Evolves later ∧ later.Holds concept := by
  refine .of_modify ?_
  rintro _ ⟨lexicon, rfl, binds⟩
  exact ⟨start.of_change (change lexicon binds), held lexicon⟩

/-- The start of an edit that names a concept before it makes it. -/
theorem Leads.of_announced {edit : Edit α} {after : α → World → Prop} (start : base.Evolves world)
    (concept : Concept) (h : Leads (world.Announces concept) edit after) :
    Leads (· = world) edit after :=
  h.weaken (fun _ same => same ▸ start.sound.announces concept) fun _ _ => id

theorem leads_addKind (singular plural : Option Name) : Leads base.Evolves
    (addKind singular plural) fun id world => base.Evolves world ∧ world.Holds (.kind id) := by
  refine .bind (evolves_bothForms singular plural) fun forms => ?_
  obtain ⟨singular, plural⟩ := forms
  refine .of_get fun world start => .of_announced start (.kind ⟨world.kinds.size⟩) ?_
  have made := leads_made (.kind ⟨world.kinds.size⟩) start
    (f := fun world => { world with kinds := world.kinds.push (.named singular plural) })
    (fun lexicon binds => .newKind lexicon singular plural binds) fun _ => by simp [Holds]
  dsimp only
  split_ifs
  · exact .bind (announces_register _ _) fun _ => .bind made fun _ => .of_pure _ fun _ => id
  · exact .bind (announces_register _ _) fun _ => .bind (announces_register _ _) fun _ =>
      .bind made fun _ => .of_pure _ fun _ => id

theorem leads_addAdjective (name : Name) : Leads base.Evolves
    (addAdjective name) fun id world => base.Evolves world ∧ world.Holds (.adjective id) := by
  refine .of_get fun world start => .of_announced start (.adjective ⟨world.adjectives.size⟩) ?_
  refine .bind (announces_register _ _) fun _ => .bind (leads_made _ start ?_ ?_)
    fun _ => .of_pure _ fun _ => id
  · exact fun lexicon binds => .newAdjective lexicon name binds
  · exact fun _ => by simp [Holds]

theorem leads_addVerb (base : World) (verb : Name) : Leads base.Evolves
    (addVerb verb) fun id world => base.Evolves world ∧ world.Holds (.verb id) := by
  refine .bind (Preserves.of_grammatical _) fun thirdPerson => ?_
  refine .of_get fun world start => .of_announced start (.verb ⟨world.verbs.size⟩) ?_
  refine .bind (announces_register _ _) fun _ => .bind (announces_register _ _) fun _ =>
    .bind (announces_register _ _) fun _ => .bind (leads_made _ start ?_ ?_)
      fun _ => .of_pure _ fun _ => id
  · exact fun lexicon binds => .newVerb lexicon verb thirdPerson verb.gerund binds
  · exact fun _ => by simp [Holds]

theorem leads_addIndividual (name : Name) : Leads base.Evolves
    (addIndividual name) fun id world => base.Evolves world ∧ world.Holds (.individual id) := by
  refine .of_get fun world start => .of_announced start (.individual ⟨world.individuals.size⟩) ?_
  refine .bind (announces_register _ _) fun _ => .bind (leads_made _ start ?_ ?_)
    fun _ => .of_pure _ fun _ => id
  · exact fun lexicon binds => .newIndividual lexicon name binds
  · exact fun _ => by simp [Holds]

/-! ## Edges and ties -/

theorem evolves_declareSuperkind {sub parent : Id .kind} (subOwned : base.Owns sub)
    (parentOwned : base.Owns parent) : Preserves base.Evolves (declareSuperkind sub parent) := by
  refine Leads.of_get fun world start => ?_
  split_ifs with above known
  · exact .of_throw _
  · refine .of_set fun _ _ => start.of_change ?_
    refine .edge sub parent (subOwned.mono start.grows) (parentOwned.mono start.grows) ?_ ?_
    · simpa using above
    · simpa using known
  · exact .of_pure _ fun _ same => same ▸ start

/-! ## What verbs relate -/

/-- What a verb is to relate is at or above what it is said to relate. -/
theorem leads_widen (verb : Id .verb) (existing : Option (Id .kind)) (proposed : Id .kind) :
    Leads (· = world) (widen verb existing proposed)
      fun kind later => later = world ∧ world.Below proposed kind := by
  cases existing with
  | none => exact .of_pure _ fun _ same => ⟨same, .refl⟩
  | some existing =>
    refine .of_get ?_
    rintro known rfl
    cases found : known.leastUpperBound? existing proposed with
    | none => exact .of_throw _
    | some kind => exact .of_pure kind fun _ same => ⟨same, (below_of_leastUpperBound? found).2⟩

theorem evolves_declareSignature (verb : Id .verb) {subject object : Id .kind}
    (subjectOwned : base.Owns subject) (objectOwned : base.Owns object) :
    Preserves base.Evolves (declareSignature verb subject object) := by
  refine Leads.of_get fun world start => ?_
  refine .bind (leads_widen verb _ subject) fun subject' => .of_each ?_
  rintro _ ⟨rfl, subjectBelow⟩
  refine .bind (leads_widen verb _ object) fun object' => .of_modify ?_
  rintro _ ⟨rfl, objectBelow⟩
  exact start.of_change (.verb verb (.signature subject' object'
    (start.closed.owns_of_below (subjectOwned.mono start.grows) subjectBelow)
    (start.closed.owns_of_below (objectOwned.mono start.grows) objectBelow)))

end Edit

end Worldsmith
