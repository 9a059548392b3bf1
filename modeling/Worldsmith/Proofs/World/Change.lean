import Worldsmith.Proofs.World.Contents
import Worldsmith.Proofs.World.Integrity

/-!
# Changes of worlds

Whatever is said, worlds change in few ways: something new comes with its names, a record is
changed by itself, or two records come to refer to each other. Each way is given with all that is
made sure of beforehand, so that what every change keeps is kept for good.

## Main definitions

* `World.Change` — what one change makes of a world.
* `World.Becomes` — what changes make of a world, one after another.

## Main statements

* `World.Becomes.grows` — nothing is ever taken out of a world.
* `World.Becomes.isSound` — a sound world stays sound.
-/

namespace Worldsmith

/-- Whether the values of a property are as they are first declared: between two counts, some of a
menu without restrictions, or anything. -/
def PropertyDomain.IsFresh : PropertyDomain → Prop
  | .range low high => ∃ l h : Nat, l ≤ h ∧ low = l.toUInt64.toFloat ∧ high = h.toUInt64.toFloat
  | .menu _ values restrictions => values ≠ [] ∧ restrictions = []
  | .text => True

namespace World

variable {world later last : World}

/-- What can be said of a kind by itself. -/
inductive KindChange (world : World) : (Kind → Kind) → Prop
  | wording {f : Kind → Kind}
      (plain : ∀ kind, ∃ singular plural name description, f kind =
        { kind with
          singular := singular
          plural := plural
          nameTemplate := name
          descriptionTemplate := description }) : KindChange world f
  | alternatives (set : AlternativeSet) (inOrder : set.low ≤ set.high)
      (isIn : ∀ trait ∈ set.alternatives, trait.IsIn world) :
      KindChange world fun k => { k with alternativeSets := k.alternativeSets ++ [set] }
  | implications (conditions consequents : List Trait)
      (conditionsIn : ∀ trait ∈ conditions, trait.IsIn world)
      (consequentsIn : ∀ trait ∈ consequents, trait.IsIn world) :
      KindChange world fun k =>
        { k with
          implications := consequents.foldl
            (fun known consequent => adjoin ⟨conditions, consequent⟩ known) k.implications }

/-- What can be said of a verb by itself. -/
inductive VerbChange (world : World) (id : Id .verb) : (Verb → Verb) → Prop
  | density (density : Float) : VerbChange world id fun v => { v with density := density }
  | generalization (general : Id .verb) (owned : world.Owns general) :
      VerbChange world id fun v => { v with generalizations := adjoin general v.generalizations }
  | signature (subject object : Id .kind) (subjectOwned : world.Owns subject)
      (objectOwned : world.Owns object) :
      VerbChange world id fun v =>
        { v with subjectKind := some subject, objectKind := some object }
  | modifiers (subject object : List Trait) (subjectIn : ∀ trait ∈ subject, trait.IsIn world)
      (objectIn : ∀ trait ∈ object, trait.IsIn world) :
      VerbChange world id fun v =>
        { v with
          subjectModifiers := adjoinAll subject v.subjectModifiers
          objectModifiers := adjoinAll object v.objectModifiers }
  | symmetric : VerbChange world id fun v => { v with symmetric := true }
  | antiSymmetric (free : (world.verb id).symmetric = false) :
      VerbChange world id fun v => { v with antiSymmetric := true }
  | antiReflexive (free : (world.verb id).reflexive = false) :
      VerbChange world id fun v => { v with antiReflexive := true }
  | reflexive (free : (world.verb id).antiReflexive = false) :
      VerbChange world id fun v => { v with reflexive := true }
  | bound (low high : Option Nat) (inOrder : ∀ l ∈ low, ∀ h ∈ high, l ≤ h) :
      VerbChange world id fun v =>
        { v with lowerBound := low <|> v.lowerBound, upperBound := high <|> v.upperBound }

/-- What one change makes of a world. -/
inductive Change (world : World) : World → Prop
  | names (lexicon : Lexicon Concept) (binds : lexicon.Binds world.Holds) :
      Change world { world with lexicon := lexicon }
  | newKind (lexicon : Lexicon Concept) (singular plural : Name)
      (binds : lexicon.Binds fun concept =>
        world.Holds concept ∨ concept = .kind ⟨world.kinds.size⟩) :
      Change world
        { world with lexicon := lexicon, kinds := world.kinds.push (.named singular plural) }
  | newAdjective (lexicon : Lexicon Concept) (name : Name)
      (binds : lexicon.Binds fun concept =>
        world.Holds concept ∨ concept = .adjective ⟨world.adjectives.size⟩) :
      Change world
        { world with lexicon := lexicon, adjectives := world.adjectives.push ⟨name, false, []⟩ }
  | newVerb (lexicon : Lexicon Concept) (base thirdPerson gerund : Name)
      (binds : lexicon.Binds fun concept =>
        world.Holds concept ∨ concept = .verb ⟨world.verbs.size⟩) :
      Change world
        { world with
          lexicon := lexicon
          verbs := world.verbs.push (.named base thirdPerson gerund) }
  | newIndividual (lexicon : Lexicon Concept) (name : Name)
      (binds : lexicon.Binds fun concept =>
        world.Holds concept ∨ concept = .individual ⟨world.individuals.size⟩) :
      Change world
        { world with lexicon := lexicon, individuals := world.individuals.push ⟨name, [], [], []⟩ }
  | kind (id : Id .kind) {f : Kind → Kind} (change : world.KindChange f) :
      Change world (world.modifyKind id f)
  | silent (id : Id .adjective) :
      Change world (world.modifyAdjective id fun adjective => { adjective with silent := true })
  | verb (id : Id .verb) {f : Verb → Verb} (change : world.VerbChange id f) :
      Change world (world.modifyVerb id f)
  | edge (sub parent : Id .kind) (subOwned : world.Owns sub) (parentOwned : world.Owns parent)
      (free : world.isA parent sub = false) (new : parent ∉ (world.kind sub).superkinds) :
      Change world
        ((world.modifyKind sub fun k =>
          { k with superkinds := k.superkinds ++ [parent] }).modifyKind parent fun k =>
            { k with subkinds := k.subkinds ++ [sub] })
  | relevant (kind : Id .kind) (adjective : Id .adjective) (kindOwned : world.Owns kind)
      (adjectiveOwned : world.Owns adjective) : Change world (world.makeRelevant kind adjective)
  | wayOf (specific general : Id .verb) (specificOwned : world.Owns specific)
      (generalOwned : world.Owns general) (apart : specific ≠ general) :
      Change world (world.addWayOf specific general)
  | exclusion (a b : Id .verb) (aOwned : world.Owns a) (bOwned : world.Owns b) (apart : a ≠ b) :
      Change world (world.addExclusion a b)
  | property (owner : Id .kind) (name : Name) (domain : PropertyDomain)
      (owned : world.Owns owner) (fresh : domain.IsFresh) :
      Change world (world.addProperty owner name domain).2
  | restriction (id : Id .property) (source : String) (values : List String)
      (restrictions : List MenuRestriction) (restriction : MenuRestriction)
      (known : (world.property id).domain = .menu source values restrictions)
      (conditionsIn : ∀ trait ∈ restriction.conditions, trait.IsIn world) :
      Change world (world.modifyProperty id fun p =>
        { p with domain := .menu source values (restrictions ++ [restriction]) })
  | part (owner : Id .kind) (name : Name) (kind : Id .kind) (modifiers : List Trait)
      (ownerOwned : world.Owns owner) (kindOwned : world.Owns kind)
      (modifiersIn : ∀ trait ∈ modifiers, trait.IsIn world) :
      Change world (world.addPart owner name kind modifiers).2
  | classify (id : Id .individual) (kind : Id .kind) (traits : List Trait)
      (owned : world.Owns kind) (traitsIn : ∀ trait ∈ traits, trait.IsIn world) :
      Change world (world.classify id kind traits)
  | characterize (id : Id .individual) (traits : List Trait)
      (traitsIn : ∀ trait ∈ traits, trait.IsIn world) :
      Change world (world.characterize id traits)
  | value (id : Id .individual) (property : Id .property) (text : String)
      (owned : world.Owns property) :
      Change world (world.modifyIndividual id fun individual =>
        { individual with
          properties := individual.properties.filter (·.1 != property) ++ [(property, text)] })
  | expectation (expectation : Expectation) (isIn : expectation.IsIn world) :
      Change world (world.addExpectation expectation)

/-- What changes make of a world, one after another. -/
def Becomes : World → World → Prop := Relation.ReflTransGen Change

theorem Becomes.trans (h : world.Becomes later) (g : later.Becomes last) : world.Becomes last :=
  Relation.ReflTransGen.trans h g

theorem Becomes.tail (h : world.Becomes later) (change : later.Change last) :
    world.Becomes last :=
  Relation.ReflTransGen.tail h change

/-! ## What changes leave alone -/

theorem KindChange.frame {f : Kind → Kind} (change : world.KindChange f) (kind : Kind) :
    (f kind).superkinds = kind.superkinds ∧ (f kind).subkinds = kind.subkinds ∧
      (f kind).adjectives = kind.adjectives ∧ (f kind).properties = kind.properties ∧
      (f kind).parts = kind.parts := by
  cases change with
  | wording plain =>
    obtain ⟨_, _, _, _, same⟩ := plain kind
    simp only [same, and_self]
  | alternatives | implications => exact ⟨rfl, rfl, rfl, rfl, rfl⟩

theorem VerbChange.frame {id : Id .verb} {f : Verb → Verb} (change : world.VerbChange id f)
    (verb : Verb) : (f verb).exclusions = verb.exclusions ∧
      (f verb).superspecies = verb.superspecies ∧ (f verb).subspecies = verb.subspecies := by
  cases change <;> exact ⟨rfl, rfl, rfl⟩

/-! ## Worlds grow -/

theorem grows_modifyKind (world : World) (id : Id .kind) (f : Kind → Kind) :
    world.Grows (world.modifyKind id f) := by
  intro category
  cases category <;> simp [count, modifyKind]

theorem grows_modifyAdjective (world : World) (id : Id .adjective) (f : Adjective → Adjective) :
    world.Grows (world.modifyAdjective id f) := by
  intro category
  cases category <;> simp [count, modifyAdjective]

theorem grows_modifyVerb (world : World) (id : Id .verb) (f : Verb → Verb) :
    world.Grows (world.modifyVerb id f) := by
  intro category
  cases category <;> simp [count, modifyVerb]

theorem grows_modifyProperty (world : World) (id : Id .property) (f : Property → Property) :
    world.Grows (world.modifyProperty id f) := by
  intro category
  cases category <;> simp [count, modifyProperty]

theorem grows_modifyIndividual (world : World) (id : Id .individual)
    (f : Individual → Individual) : world.Grows (world.modifyIndividual id f) := by
  intro category
  cases category <;> simp [count, modifyIndividual]

theorem grows_addProperty (world : World) (owner : Id .kind) (name : Name)
    (domain : PropertyDomain) : world.Grows (world.addProperty owner name domain).2 := by
  rw [addProperty]
  split
  · exact grows_modifyProperty world _ _
  · refine Grows.trans (fun category => ?_) (grows_modifyKind _ owner _)
    cases category <;> simp [count]

theorem grows_addPart (world : World) (owner : Id .kind) (name : Name) (kind : Id .kind)
    (modifiers : List Trait) : world.Grows (world.addPart owner name kind modifiers).2 := by
  refine Grows.trans (fun category => ?_) (grows_modifyKind _ owner _)
  cases category <;> simp [count]

/-- Nothing is ever taken out of a world. -/
theorem Change.grows (change : world.Change later) : world.Grows later := by
  cases change with
  | names | expectation => exact grows_self _
  | newKind | newAdjective | newVerb | newIndividual =>
    intro category
    cases category <;> simp [count]
  | kind id => exact grows_modifyKind world id _
  | silent id => exact grows_modifyAdjective world id _
  | verb id => exact grows_modifyVerb world id _
  | edge sub parent => exact (grows_modifyKind world sub _).trans (grows_modifyKind _ parent _)
  | relevant kind adjective =>
    exact (grows_modifyKind world kind _).trans (grows_modifyAdjective _ adjective _)
  | wayOf specific general =>
    rw [addWayOf]
    split_ifs
    · exact grows_self world
    · exact (grows_modifyVerb world specific _).trans (grows_modifyVerb _ general _)
  | exclusion a b => exact (grows_modifyVerb world a _).trans (grows_modifyVerb _ b _)
  | property owner name domain => exact grows_addProperty world owner name domain
  | restriction id => exact grows_modifyProperty world id _
  | part owner name kind modifiers => exact grows_addPart world owner name kind modifiers
  | classify id | characterize id | value id => exact grows_modifyIndividual world id _

theorem Becomes.grows (becomes : world.Becomes later) : world.Grows later := by
  induction becomes with
  | refl => exact grows_self world
  | tail _ change ih => exact ih.trans change.grows

/-! ## Sound worlds stay sound -/

theorem IsSound.frames (sound : world.IsSound) (frames : world.Frames later) : later.IsSound where
  lexicon := frames.lexicon ▸ fun name entry known =>
    frames.holds _ (sound.lexicon name entry known)
  hierarchy := frames.isHierarchy sound.hierarchy
  reciprocal := frames.isReciprocal sound.reciprocal

theorem IsSound.edit (sound : world.IsSound) (lexicon : later.lexicon = world.lexicon)
    (grows : world.Grows later) (hierarchy : later.IsHierarchy)
    (reciprocal : later.IsReciprocal) : later.IsSound where
  lexicon := lexicon ▸ fun name entry known => grows.holds (sound.lexicon name entry known)
  hierarchy := hierarchy
  reciprocal := reciprocal

/-- Something that is named before it is there is in the world in the end. -/
theorem IsSound.of_named (sound : world.IsSound) {lexicon : Lexicon Concept} {concept : Concept}
    (binds : lexicon.Binds fun other => world.Holds other ∨ other = concept)
    (frames : Frames { world with lexicon := lexicon } later) (held : later.Holds concept) :
    later.IsSound where
  lexicon := frames.lexicon ▸ fun name entry known =>
    (binds name entry known).elim (frames.holds _) fun same => same ▸ held
  hierarchy := frames.isHierarchy (sound.hierarchy.of_kinds_eq rfl)
  reciprocal := frames.isReciprocal (sound.reciprocal.of_verbs_eq rfl)

theorem Change.isSound (change : world.Change later) (sound : world.IsSound) :
    later.IsSound := by
  have grows := change.grows
  cases change with
  | names lexicon binds =>
    exact ⟨binds, sound.hierarchy.of_kinds_eq rfl, sound.reciprocal.of_verbs_eq rfl⟩
  | newKind lexicon singular plural binds =>
    exact sound.of_named binds (frames_pushKind _ singular plural) (by simp [Holds])
  | newAdjective lexicon name binds =>
    exact sound.of_named binds (frames_of_eq rfl rfl rfl (by simp) le_rfl) (by simp [Holds])
  | newVerb lexicon base thirdPerson gerund binds =>
    exact sound.of_named binds (frames_pushVerb _ base thirdPerson gerund) (by simp [Holds])
  | newIndividual lexicon name binds =>
    exact sound.of_named binds (frames_of_eq rfl rfl rfl le_rfl (by simp)) (by simp [Holds])
  | kind id change =>
    exact sound.frames (frames_modifyKind world id (fun kind => (change.frame kind).1)
      fun kind => (change.frame kind).2.1)
  | silent id => exact sound.frames (frames_modifyAdjective world id _)
  | verb id change =>
    exact sound.frames (frames_modifyVerb world id (fun verb => (change.frame verb).1)
      (fun verb => (change.frame verb).2.1) fun verb => (change.frame verb).2.2)
  | edge sub parent subOwned parentOwned free =>
    rw [Bool.eq_false_iff, Ne, isA_iff_below sound.hierarchy] at free
    refine sound.edit rfl grows ?_ (sound.reciprocal.of_verbs_eq rfl)
    exact isHierarchy_addEdge sound.hierarchy subOwned parentOwned free
  | relevant kind adjective => exact sound.frames (frames_makeRelevant world kind adjective)
  | wayOf specific general specificOwned generalOwned =>
    refine sound.edit lexicon_addWayOf grows (sound.hierarchy.of_kinds_eq kinds_addWayOf) ?_
    exact isReciprocal_addWayOf sound.reciprocal specificOwned generalOwned
  | exclusion a b aOwned bOwned apart =>
    refine sound.edit rfl grows (sound.hierarchy.of_kinds_eq rfl) ?_
    exact isReciprocal_addExclusion sound.reciprocal aOwned bOwned apart
  | property owner name domain => exact sound.frames (frames_addProperty world owner name domain)
  | restriction => exact sound.frames (frames_of_eq rfl rfl rfl le_rfl le_rfl)
  | part owner name kind modifiers =>
    exact sound.frames (frames_addPart world owner name kind modifiers)
  | classify id | characterize id | value id =>
    exact sound.frames (frames_modifyIndividual world id _)
  | expectation => exact sound.frames (frames_of_eq rfl rfl rfl le_rfl le_rfl)

theorem Becomes.isSound (becomes : world.Becomes later) (sound : world.IsSound) :
    later.IsSound := by
  induction becomes with
  | refl => exact sound
  | tail _ change ih => exact change.isSound ih

end World

end Worldsmith
