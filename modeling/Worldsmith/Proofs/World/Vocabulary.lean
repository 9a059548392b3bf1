import Worldsmith.Proofs.World.Edits
import Worldsmith.Statement.Properties

/-!
# The words of a world

Most of what can be said of a world is said in words that it has: it changes neither what names
stand for nor what anything is called.

## Main definitions

* `World.vocabulary` — what names stand for in a world, and what its concepts are called.
* `Edit.KeepsWords` — an edit changes nothing about that.
-/

namespace Worldsmith

/-- What names stand for, and what concepts are called. -/
structure Vocabulary where
  lexicon : Lexicon Concept
  /-- The singular and the plural of every kind. -/
  kinds : Array (Name × Name)
  adjectives : Array Name
  /-- The base form, the third person and the gerund of every verb. -/
  verbs : Array (Name × Name × Name)
  individuals : Array Name

/-- Both numbers of what a kind is called. -/
def Kind.names (kind : Kind) : Name × Name := (kind.singular, kind.plural)

/-- All forms of a verb. -/
def Verb.names (verb : Verb) : Name × Name × Name := (verb.base, verb.thirdPerson, verb.gerund)

namespace World

variable (world : World)

/-- What names stand for in a world, and what its concepts are called. -/
def vocabulary : Vocabulary :=
  ⟨world.lexicon, world.kinds.map Kind.names, world.adjectives.map Adjective.name,
    world.verbs.map Verb.names, world.individuals.map Individual.name⟩

theorem map_modify {α β : Type} (array : Array α) (i : Nat) {f : α → α} {name : α → β}
    (same : ∀ a, name (f a) = name a) : (array.modify i f).map name = array.map name := by
  refine Array.ext (by simp) fun j _ _ => ?_
  simp only [Array.getElem_map, Array.getElem_modify]
  split_ifs
  · exact same _
  · rfl

variable {world}

theorem vocabulary_modifyKind (id : Id .kind) {f : Kind → Kind}
    (same : ∀ kind, (f kind).names = kind.names) :
    (world.modifyKind id f).vocabulary = world.vocabulary := by
  simp [vocabulary, modifyKind, map_modify _ _ same]

theorem vocabulary_modifyAdjective (id : Id .adjective) {f : Adjective → Adjective}
    (same : ∀ adjective, (f adjective).name = adjective.name) :
    (world.modifyAdjective id f).vocabulary = world.vocabulary := by
  simp [vocabulary, modifyAdjective, map_modify _ _ same]

theorem vocabulary_modifyVerb (id : Id .verb) {f : Verb → Verb}
    (same : ∀ verb, (f verb).names = verb.names) :
    (world.modifyVerb id f).vocabulary = world.vocabulary := by
  simp [vocabulary, modifyVerb, map_modify _ _ same]

theorem vocabulary_modifyIndividual (id : Id .individual) {f : Individual → Individual}
    (same : ∀ individual, (f individual).name = individual.name) :
    (world.modifyIndividual id f).vocabulary = world.vocabulary := by
  simp [vocabulary, modifyIndividual, map_modify _ _ same]

/-! ## What statements change -/

@[simp] theorem vocabulary_makeRelevant (kind : Id .kind) (adjective : Id .adjective) :
    (world.makeRelevant kind adjective).vocabulary = world.vocabulary := by
  refine (vocabulary_modifyAdjective _ ?_).trans (vocabulary_modifyKind _ ?_)
  all_goals exact fun _ => rfl

@[simp] theorem vocabulary_makeTraitsRelevant (kind : Id .kind) (traits : List Trait) :
    (world.makeTraitsRelevant kind traits).vocabulary = world.vocabulary := by
  refine List.foldlRecOn (motive := fun later : World => later.vocabulary = world.vocabulary)
    traits _ rfl fun later same trait _ => ?_
  split
  · split_ifs
    · exact same
    · exact (vocabulary_makeRelevant _ _).trans same
  · exact same

@[simp] theorem vocabulary_addProperty (owner : Id .kind) (name : Name)
    (domain : PropertyDomain) :
    (world.addProperty owner name domain).2.vocabulary = world.vocabulary := by
  rw [addProperty]
  split
  · rfl
  · exact vocabulary_modifyKind _ fun _ => rfl

@[simp] theorem vocabulary_addPart (owner : Id .kind) (name : Name) (kind : Id .kind)
    (modifiers : List Trait) :
    (world.addPart owner name kind modifiers).2.vocabulary = world.vocabulary :=
  vocabulary_modifyKind _ fun _ => rfl

@[simp] theorem vocabulary_classify (id : Id .individual) (kind : Id .kind)
    (traits : List Trait) : (world.classify id kind traits).vocabulary = world.vocabulary :=
  vocabulary_modifyIndividual _ fun _ => rfl

@[simp] theorem vocabulary_characterize (id : Id .individual) (traits : List Trait) :
    (world.characterize id traits).vocabulary = world.vocabulary :=
  vocabulary_modifyIndividual _ fun _ => rfl

@[simp] theorem vocabulary_addGeneralization (verb general : Id .verb) :
    (world.addGeneralization verb general).vocabulary = world.vocabulary :=
  vocabulary_modifyVerb _ fun _ => rfl

@[simp] theorem vocabulary_addWayOf (specific general : Id .verb) :
    (world.addWayOf specific general).vocabulary = world.vocabulary := by
  rw [addWayOf]
  split_ifs
  · rfl
  · refine (vocabulary_modifyVerb _ ?_).trans (vocabulary_modifyVerb _ ?_)
    all_goals exact fun _ => rfl

@[simp] theorem vocabulary_addExclusion (a b : Id .verb) :
    (world.addExclusion a b).vocabulary = world.vocabulary := by
  refine (vocabulary_modifyVerb _ ?_).trans (vocabulary_modifyVerb _ ?_)
  all_goals exact fun _ => rfl

/-- What a kind is called is among the words of the world. -/
theorem kindName_eq_of_vocabulary {later : World} (same : later.vocabulary = world.vocabulary)
    (id : Id .kind) : later.kindName id = world.kindName id := by
  have names (w : World) : (w.kind id).names = (w.vocabulary.kinds)[id.index]?.getD ([], []) := by
    simp only [kind, vocabulary, Array.getElem?_map, Array.getD_eq_getD_getElem?]
    cases w.kinds[id.index]? <;> rfl
  have singular : (later.kind id).names.1 = (world.kind id).names.1 := by rw [names, names, same]
  exact congrArg untokenize singular

end World

end Worldsmith
