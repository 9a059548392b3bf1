import Worldsmith.Blueprint.Growth
import Worldsmith.Proofs.World.Closure
import Worldsmith.Proofs.World.Names
import Worldsmith.Proofs.World.Whole

/-!
# Worlds with more in them

A world may have all that another has, and know more besides of individuals, of the adjectives of
its kinds and of properties. What there could be is then of the same kinds.

## Main definitions

* `World.Underlies` — one world has all that another has but for further properties.
* `World.Concurs` — two worlds differ in individuals and in what is known of adjectives only.
* `World.introduce` — a world with one more individual, of a kind and with some traits.

## Main statements

* `World.underlies_addProperty` — a world underlies what it becomes by a property of a new name.
* `World.Concurs.underlies` — of worlds that concur each underlies the other.
-/

namespace Worldsmith

namespace World

variable {world world' : World} {kind : Id .kind}

/-- Whether the hierarchy of kinds, what is said of their members, and all verbs and parts are the
same in two worlds. The properties of one are properties of the other, which may have more. Nothing
is said of the values of those, and no others have their names. -/
structure Underlies (world world' : World) : Prop where
  size_kinds : world'.kinds.size = world.kinds.size
  superkinds : ∀ kind, (world'.kind kind).superkinds = (world.kind kind).superkinds
  subkinds : ∀ kind, (world'.kind kind).subkinds = (world.kind kind).subkinds
  implications : ∀ kind, (world'.kind kind).implications = (world.kind kind).implications
  alternativeSets : ∀ kind, (world'.kind kind).alternativeSets = (world.kind kind).alternativeSets
  ownParts : ∀ kind, (world'.kind kind).parts = (world.kind kind).parts
  qualityName : ∀ quality, world'.qualityName quality = world.qualityName quality
  verbs : world'.verbs = world.verbs
  parts : world'.parts = world.parts
  size_properties : world.properties.size ≤ world'.properties.size
  property : ∀ id : Id .property, world.Owns id → world'.property id = world.property id
  properties : ∀ kind, (world'.kind kind).properties.filter (·.index < world.properties.size) =
    (world.kind kind).properties
  listed : world'.ListsProperties
  fresh : ∀ id : Id .property, world'.Owns id → ¬world.Owns id →
    (world'.property id).domain.IsFresh
  eq_of_name : ∀ id id' : Id .property, world'.Owns id → world'.Owns id' → ¬world.Owns id →
    untokenize (world'.property id).name = untokenize (world'.property id').name → id = id'
  fixed : ∀ individual, ∀ entry ∈ (world.individual individual).properties, world.Owns entry.1

namespace Underlies

variable (h : world.Underlies world')
include h

theorem isA_eq (kind above : Id .kind) : world'.isA kind above = world.isA kind above := by
  have within (steps : Nat) (kind : Id .kind) :
      world'.isAWithin steps kind above = world.isAWithin steps kind above := by
    induction steps generalizing kind with
    | zero => rfl
    | succ steps ih => simp only [isAWithin, h.superkinds, ih]
  rw [isA, isA, h.size_kinds, within]

theorem descendants_eq (kind : Id .kind) : world'.descendants kind = world.descendants kind := by
  rw [descendants, descendants, h.size_kinds, funext h.subkinds]

theorem couldBe_eq (declared : List (Id .kind)) (kind : Id .kind) :
    world'.couldBe declared kind = world.couldBe declared kind := by
  simp only [couldBe, h.descendants_eq, h.isA_eq]

theorem mostSpecific_eq (kinds : List (Id .kind)) :
    world'.mostSpecific kinds = world.mostSpecific kinds := by
  have above : world'.isAbove = world.isAbove := by
    funext kind other
    rw [isAbove, isAbove, h.isA_eq]
  rw [mostSpecific, mostSpecific, above]

theorem declaredKinds_eq (kinds : List (Id .kind)) (modifiers : List Trait) :
    Blueprint.declaredKinds world' kinds modifiers =
      Blueprint.declaredKinds world kinds modifiers :=
  h.mostSpecific_eq _

theorem enoughFuel_eq : Blueprint.enoughFuel world' = Blueprint.enoughFuel world := by
  rw [Blueprint.enoughFuel, Blueprint.enoughFuel, h.size_kinds]

theorem verb_eq (id : Id .verb) : world'.verb id = world.verb id := by
  rw [verb, verb, h.verbs]

theorem verbIds_eq : world'.verbIds = world.verbIds := by
  rw [verbIds, verbIds, h.verbs]

theorem part_eq (id : Id .part) : world'.part id = world.part id := by
  rw [part, part, h.parts]

theorem isHierarchy (hierarchy : world.IsHierarchy) : world'.IsHierarchy := by
  have edges : world'.JustBelow = world.JustBelow := by
    funext sub parent
    rw [JustBelow, JustBelow, h.superkinds]
  refine ⟨fun sub parent => ?_, edges ▸ hierarchy.acyclic⟩
  rw [edges, h.subkinds]
  exact hierarchy.mirrored sub parent

end Underlies

/-- A world has lettered names if all its concepts are concepts of one that has, and are called the
same there. -/
theorem IsLettered.of_conceptName (named : world.IsLettered)
    (held : ∀ concept, world'.Holds concept → world.Holds concept)
    (same : ∀ concept, world'.Holds concept →
      world'.conceptName concept = world.conceptName concept) : world'.IsLettered where
  lettered concept own := same concept own ▸ named.lettered concept (held concept own)
  eq_of_name c c' own own' names :=
    named.eq_of_name c c' (held c own) (held c' own') (same c own ▸ same c' own' ▸ names)

/-! ## A property of a new name -/

/-- A property that was not there before is listed last by its owner. -/
theorem addProperty_of_none {owner : Id .kind} {name : Name}
    (unused : world.findProperty? owner name = none) (domain : PropertyDomain) :
    (world.addProperty owner name domain).2 =
      modifyKind { world with properties := world.properties.push ⟨name, owner, domain⟩ } owner
        fun kind => { kind with properties := kind.properties ++ [⟨world.properties.size⟩] } := by
  rw [addProperty, unused]

/-- A property that was not there before has the next number. -/
theorem property_addProperty_of_none {owner : Id .kind} {name : Name}
    (unused : world.findProperty? owner name = none) (domain : PropertyDomain)
    (id : Id .property) :
    (world.addProperty owner name domain).2.property id =
      if id = ⟨world.properties.size⟩ then ⟨name, owner, domain⟩ else world.property id := by
  rw [addProperty_of_none unused]
  exact property_push world ⟨name, owner, domain⟩ id

/-- It is the only one that is new. -/
theorem eq_of_owns_addProperty {owner : Id .kind} {name : Name} {domain : PropertyDomain}
    (unused : world.findProperty? owner name = none) {id : Id .property}
    (own : (world.addProperty owner name domain).2.Owns id) (other : ¬world.Owns id) :
    id = ⟨world.properties.size⟩ := by
  have size : (world.addProperty owner name domain).2.properties.size =
      world.properties.size + 1 := by
    rw [addProperty_of_none unused]
    exact Array.size_push _
  obtain ⟨i⟩ := id
  simp only [Owns, count] at own other
  rw [Id.mk.injEq]
  omega

/-- A world underlies what it becomes by a property of a new name. -/
theorem underlies_addProperty (whole : world.IsWhole) {owner : Id .kind} (owned : world.Owns owner)
    {name : Name} {domain : PropertyDomain} (fresh : domain.IsFresh)
    (unused : world.findProperty? owner name = none)
    (new : ∀ id : Id .property, world.Owns id →
      untokenize (world.property id).name ≠ untokenize name) :
    world.Underlies (world.addProperty owner name domain).2 := by
  have listed : (world.addProperty owner name domain).2.ListsProperties :=
    ListsProperties.addProperty whole.properties owned
  have field {β : Type} (field : Kind → β)
      (same : ∀ kind properties, field { kind with properties := properties } = field kind)
      (kind : Id .kind) : field ((world.addProperty owner name domain).2.kind kind) =
        field (world.kind kind) := field_addProperty field owner kind name domain same
  have made := addProperty_of_none unused domain
  have property := property_addProperty_of_none unused domain
  have last (id : Id .property) (own : (world.addProperty owner name domain).2.Owns id)
      (other : ¬world.Owns id) : id = ⟨world.properties.size⟩ :=
    eq_of_owns_addProperty unused own other
  refine
    { size_kinds := ?_
      superkinds := field Kind.superkinds fun _ _ => rfl
      subkinds := field Kind.subkinds fun _ _ => rfl
      implications := field Kind.implications fun _ _ => rfl
      alternativeSets := field Kind.alternativeSets fun _ _ => rfl
      ownParts := field Kind.parts fun _ _ => rfl
      qualityName := ?_
      verbs := by rw [made]; rfl
      parts := by rw [made]; rfl
      size_properties := by
        rw [made]
        exact Nat.le_trans (Nat.le_succ _) (Nat.le_of_eq (Array.size_push _).symm)
      property := ?_
      properties := ?_
      listed := listed
      fresh := ?_
      eq_of_name := ?_
      fixed := fun individual => (whole.closed.individual individual).properties }
  · rw [made]
    exact Array.size_modify
  · rintro (kind | adjective)
    · exact congrArg untokenize (field Kind.singular (fun _ _ => rfl) kind)
    · simp only [World.qualityName, adjectiveName, World.adjective, adjectives_addProperty]
  · intro id own
    rw [property, if_neg]
    rintro rfl
    exact absurd own (Nat.lt_irrefl _)
  · intro kind
    have old : (world.kind kind).properties.filter (·.index < world.properties.size) =
        (world.kind kind).properties :=
      List.filter_eq_self.mpr fun id mem =>
        decide_eq_true ((whole.properties.mem_iff kind id).mp mem).1
    rw [made, kind_modifyKind_of_owns]
    · split_ifs
      · change ((world.kind kind).properties ++ _).filter _ = _
        rw [List.filter_append, old]
        simp
      · exact old
    · exact owned
  · intro id own other
    rw [property, if_pos (last id own other)]
    exact fresh
  · intro id id' own own' other same
    rw [property, property, if_pos (last id own other)] at same
    split_ifs at same with new'
    · rw [last id own other, new']
    · refine absurd same.symm (new id' ?_)
      by_contra other'
      exact new' (last id' own' other')

/-- No property changes the names of concepts. -/
theorem IsLettered.addProperty (named : world.IsLettered) {owner : Id .kind} {name : Name}
    {domain : PropertyDomain} : (world.addProperty owner name domain).2.IsLettered := by
  have kinds (id : Id .kind) : ((world.addProperty owner name domain).2.kind id).singular =
      (world.kind id).singular :=
    field_addProperty Kind.singular owner id name domain fun _ _ => rfl
  obtain ⟨sizes, adjectives, verbs, individuals⟩ :
      (world.addProperty owner name domain).2.kinds.size = world.kinds.size ∧
      (world.addProperty owner name domain).2.adjectives = world.adjectives ∧
      (world.addProperty owner name domain).2.verbs = world.verbs ∧
      (world.addProperty owner name domain).2.individuals = world.individuals := by
    rw [World.addProperty]
    split <;> exact ⟨by simp [modifyKind, modifyProperty], rfl, rfl, rfl⟩
  refine named.of_conceptName (fun concept own => ?_) fun concept _ => ?_
  · cases concept <;> simpa only [Holds, sizes, adjectives, verbs, individuals] using own
  · cases concept <;> simp only [conceptName, kinds, adjective, adjectives, verb, verbs, individual,
      individuals]

/-! ## Worlds that differ in individuals -/

/-- Whether two worlds are the same but for their lexicons, individuals and expectations, and for
what is known of adjectives besides their names. -/
structure Concurs (world world' : World) : Prop where
  size_kinds : world'.kinds.size = world.kinds.size
  kind : ∀ kind, ∃ adjectives,
    world'.kind kind = { world.kind kind with adjectives := adjectives }
  size_adjectives : world'.adjectives.size = world.adjectives.size
  adjective : ∀ adjective, (world'.adjective adjective).name = (world.adjective adjective).name
  verbs : world'.verbs = world.verbs
  properties : world'.properties = world.properties
  parts : world'.parts = world.parts

namespace Concurs

theorem refl (world : World) : world.Concurs world :=
  ⟨rfl, fun _ => ⟨_, rfl⟩, rfl, fun _ => rfl, rfl, rfl, rfl⟩

theorem trans {world'' : World} (h : world.Concurs world') (g : world'.Concurs world'') :
    world.Concurs world'' where
  size_kinds := g.size_kinds.trans h.size_kinds
  kind k := by
    obtain ⟨_, same⟩ := h.kind k
    obtain ⟨adjectives, same'⟩ := g.kind k
    exact ⟨adjectives, by rw [same', same]⟩
  size_adjectives := g.size_adjectives.trans h.size_adjectives
  adjective a := (g.adjective a).trans (h.adjective a)
  verbs := g.verbs.trans h.verbs
  properties := g.properties.trans h.properties
  parts := g.parts.trans h.parts

theorem symm (h : world.Concurs world') : world'.Concurs world where
  size_kinds := h.size_kinds.symm
  kind k := by
    obtain ⟨_, same⟩ := h.kind k
    exact ⟨(world.kind k).adjectives, by rw [same]⟩
  size_adjectives := h.size_adjectives.symm
  adjective a := (h.adjective a).symm
  verbs := h.verbs.symm
  properties := h.properties.symm
  parts := h.parts.symm

theorem field (h : world.Concurs world') {β : Type} (field : Kind → β)
    (same : ∀ kind adjectives, field { kind with adjectives := adjectives } = field kind)
    (k : Id .kind) : field (world'.kind k) = field (world.kind k) := by
  obtain ⟨adjectives, known⟩ := h.kind k
  rw [known, same]

end Concurs

theorem concurs_makeRelevant (world : World) (kind : Id .kind) (adjective : Id .adjective) :
    world.Concurs (world.makeRelevant kind adjective) where
  size_kinds := Array.size_modify
  kind k := by
    have same : (world.makeRelevant kind adjective).kind k = (world.modifyKind kind fun owner =>
      { owner with adjectives := adjoin adjective owner.adjectives }).kind k := rfl
    rw [same, kind_modifyKind]
    split_ifs <;> exact ⟨_, rfl⟩
  size_adjectives := Array.size_modify
  adjective a := by
    rw [makeRelevant, adjective_modifyAdjective]
    split_ifs <;> rfl
  verbs := rfl
  properties := rfl
  parts := rfl

theorem concurs_makeTraitsRelevant (world : World) (kind : Id .kind) (traits : List Trait) :
    world.Concurs (world.makeTraitsRelevant kind traits) := by
  induction traits generalizing world with
  | nil => exact .refl world
  | cons trait rest ih =>
    refine .trans ?_ (ih _)
    obtain ⟨_ | adjective, positive⟩ := trait
    · exact .refl world
    · dsimp only
      split_ifs
      · exact .refl world
      · exact concurs_makeRelevant world kind adjective

/-- Of worlds that concur each underlies the other, unless values are fixed for individuals. -/
theorem Concurs.underlies (h : world.Concurs world') (listed : world.ListsProperties)
    (bare : ∀ individual, (world.individual individual).properties = []) :
    world.Underlies world' := by
  have property (id : Id .property) : world'.property id = world.property id := by
    rw [World.property, World.property, h.properties]
  have size := congrArg Array.size h.properties
  have properties := h.field Kind.properties fun _ _ => rfl
  refine
    { size_kinds := h.size_kinds
      superkinds := h.field Kind.superkinds fun _ _ => rfl
      subkinds := h.field Kind.subkinds fun _ _ => rfl
      implications := h.field Kind.implications fun _ _ => rfl
      alternativeSets := h.field Kind.alternativeSets fun _ _ => rfl
      ownParts := h.field Kind.parts fun _ _ => rfl
      qualityName := ?_
      verbs := h.verbs
      parts := h.parts
      size_properties := size.ge
      property := fun id _ => property id
      properties := fun kind => ?_
      listed := listed.of_eq properties (fun id => congrArg Property.owner (property id)) size
      fresh := fun id own other => absurd (lt_of_lt_of_eq own size) other
      eq_of_name := fun id _ own _ other => absurd (lt_of_lt_of_eq own size) other
      fixed := fun individual entry mem => by
        rw [bare] at mem
        cases mem }
  · rintro (kind | adjective)
    · exact congrArg untokenize (h.field Kind.singular (fun _ _ => rfl) kind)
    · exact congrArg untokenize (h.adjective adjective)
  · rw [properties]
    exact List.filter_eq_self.mpr fun id mem =>
      decide_eq_true ((listed.mem_iff kind id).mp mem).1

/-- A world without individuals has lettered names if one that concurs with it has. -/
theorem Concurs.isLettered (h : world.Concurs world') (nobody : world.individuals = #[])
    (named : world'.IsLettered) : world.IsLettered := by
  refine named.of_conceptName (fun concept own => ?_) fun concept own => ?_
  · cases concept with
    | kind => exact lt_of_lt_of_eq own h.size_kinds.symm
    | adjective => exact lt_of_lt_of_eq own h.size_adjectives.symm
    | verb => exact lt_of_lt_of_eq own (congrArg Array.size h.verbs).symm
    | individual => simp [Holds, nobody] at own
  · cases concept with
    | kind id => exact (h.field Kind.singular (fun _ _ => rfl) id).symm
    | adjective id => exact (h.adjective id).symm
    | verb id => rw [conceptName, conceptName, verb, verb, h.verbs]
    | individual => simp [Holds, nobody] at own

/-! ### New individuals -/

section Introduce

variable {lexicon : Lexicon Concept} {name : Name} {kind : Id .kind} {traits : List Trait}

/-- A world with one more individual, of which nothing is known but the name. -/
def christen (world : World) (lexicon : Lexicon Concept) (name : Name) : World :=
  { world with
    lexicon := lexicon
    individuals := world.individuals.push ⟨name, [], [], []⟩ }

/-- A world with one more individual, of a kind and with some traits. -/
def introduce (world : World) (lexicon : Lexicon Concept) (name : Name) (kind : Id .kind)
    (traits : List Trait) : World :=
  ((world.christen lexicon name).makeTraitsRelevant kind traits).classify
    ⟨world.individuals.size⟩ kind traits

theorem concurs_introduce : world.Concurs (world.introduce lexicon name kind traits) := by
  have christened : world.Concurs (world.christen lexicon name) :=
    ⟨rfl, fun _ => ⟨_, rfl⟩, rfl, fun _ => rfl, rfl, rfl, rfl⟩
  exact (christened.trans (concurs_makeTraitsRelevant _ kind traits)).trans
    ⟨rfl, fun _ => ⟨_, rfl⟩, rfl, fun _ => rfl, rfl, rfl, rfl⟩

theorem individuals_makeTraitsRelevant (world : World) (kind : Id .kind) (traits : List Trait) :
    (world.makeTraitsRelevant kind traits).individuals = world.individuals := by
  induction traits generalizing world with
  | nil => rfl
  | cons trait rest ih =>
    refine (ih _).trans ?_
    obtain ⟨_ | adjective, positive⟩ := trait
    · rfl
    · dsimp only
      split_ifs <;> rfl

/-- An individual of which nothing was known is of the kind, and has the traits, that are said. -/
theorem individuals_classify {before : Array Individual}
    (last : world.individuals = before.push ⟨name, [], [], []⟩) :
    (world.classify ⟨before.size⟩ kind traits).individuals =
      before.push ⟨name, [kind], adjoinAll traits [], []⟩ := by
  have new : world.individual ⟨before.size⟩ = ⟨name, [], [], []⟩ := by
    rw [individual, last]
    simp [Array.getD_eq_getD_getElem?]
  unfold classify
  dsimp only
  rw [new, List.nil_append, mostSpecific_singleton, modifyIndividual, last]
  exact modify_push before ⟨name, [], [], []⟩ fun individual =>
    { individual with kinds := [kind], modifiers := adjoinAll traits individual.modifiers }

theorem individuals_introduce : (world.introduce lexicon name kind traits).individuals =
    world.individuals.push ⟨name, [kind], adjoinAll traits [], []⟩ :=
  individuals_classify (individuals_makeTraitsRelevant _ kind traits)

end Introduce

end World

end Worldsmith
