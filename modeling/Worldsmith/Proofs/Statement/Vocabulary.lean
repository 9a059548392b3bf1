import Worldsmith.Proofs.Statement.Declarations
import Worldsmith.Proofs.World.Vocabulary

/-!
# Declarations and the words of a world

Declarations say what they say in words that the world has by then: its own, and those that the
sentence has coined. Only two of them change words, and only those of one kind.

## Main statements

* `Statement.keepsWords_declare` — no other declaration changes the words of a world.
-/

namespace Worldsmith

namespace Edit

open World

variable {α β : Type} {world : World} {words : Vocabulary}

/-- Whether an edit leaves the words of a world as they are. -/
def KeepsWords (words : Vocabulary) (edit : Edit α) : Prop :=
  Preserves (fun world => world.vocabulary = words) edit

theorem KeepsWords.of_modify {f : World → World}
    (same : ∀ world : World, (f world).vocabulary = world.vocabulary) :
    KeepsWords words (modify f : Edit PUnit) :=
  Preserves.of_modify fun world kept => (same world).trans kept

/-- A world may be looked at before it is changed. -/
theorem KeepsWords.of_set {later : World} (same : later.vocabulary = world.vocabulary)
    (kept : world.vocabulary = words) :
    Leads (· = world) (set later : Edit PUnit) fun _ world => world.vocabulary = words :=
  .of_set fun _ _ => same.trans kept

theorem keepsWords_declareSuperkind (sub parent : Id .kind) :
    KeepsWords words (declareSuperkind sub parent) := by
  refine Leads.of_get fun world kept => ?_
  split_ifs
  · exact .of_throw _
  · refine KeepsWords.of_set ?_ kept
    refine (vocabulary_modifyKind _ ?_).trans (vocabulary_modifyKind _ ?_)
    all_goals exact fun _ => rfl
  · exact .of_pure _ fun _ same => same ▸ kept

theorem keepsWords_widen (verb : Id .verb) (existing : Option (Id .kind)) (proposed : Id .kind) :
    KeepsWords words (widen verb existing proposed) := by
  cases existing with
  | none => exact .of_pure _
  | some existing =>
    refine .of_get fun world => ?_
    cases world.leastUpperBound? existing proposed with
    | none => exact .of_throw _
    | some kind => exact .of_pure kind

theorem keepsWords_declareSignature (verb : Id .verb) (subject object : Id .kind) :
    KeepsWords words (declareSignature verb subject object) := by
  refine .of_get fun world => (keepsWords_widen _ _ _).bind fun subject =>
    (keepsWords_widen _ _ _).bind fun object => KeepsWords.of_modify fun world => ?_
  exact vocabulary_modifyVerb verb fun _ => rfl

end Edit

namespace Statement

open World Edit

variable {s : Statement} {words : Vocabulary}

/-! ## Declarations about kinds, individuals and adjectives -/

theorem keepsWords_subkinds : KeepsWords words s.subkinds :=
  .of_lift fun parent _ => .of_lift fun _ _ => .forM _ fun _ _ =>
    .of_lift fun sub _ => keepsWords_declareSuperkind sub parent

theorem keepsWords_subkind : KeepsWords words s.subkind :=
  .of_lift fun sub _ => .of_lift fun parent _ => keepsWords_declareSuperkind sub parent

theorem keepsWords_template {set : Template → Kind → Kind}
    (same : ∀ template kind, (set template kind).names = kind.names) :
    KeepsWords words (s.template set) :=
  .of_lift fun kind _ => .of_lift fun _ _ => .bind (.of_grammatical _) fun template =>
    KeepsWords.of_modify fun _ => vocabulary_modifyKind kind (same template)

theorem keepsWords_membership : KeepsWords words s.membership :=
  .of_lift fun phrase _ => .of_lift fun individual _ => .of_lift fun phrase' _ =>
    .of_lift fun kind _ => .of_lift fun modifiers _ => KeepsWords.of_modify fun world => by simp

theorem keepsWords_attributes : KeepsWords words s.attributes := by
  refine .of_lift fun phrase _ => .of_lift fun individual _ => .of_lift fun series _ =>
    .of_lift fun traits _ => KeepsWords.of_modify fun world => ?_
  refine (vocabulary_characterize individual traits).trans ?_
  exact List.foldlRecOn (motive := fun later : World => later.vocabulary = world.vocabulary)
    _ _ rfl fun later same kind _ => (vocabulary_makeTraitsRelevant kind traits).trans same

theorem keepsWords_expectation (shouldExist : Bool) :
    KeepsWords words (s.expectation shouldExist) :=
  .of_lift fun _ _ => .of_lift fun _ _ => .of_lift fun _ _ =>
    KeepsWords.of_modify fun _ => rfl

theorem keepsWords_silence : KeepsWords words s.silence := by
  refine .of_lift fun modifier _ => .of_lift fun trait _ => ?_
  split
  · exact KeepsWords.of_modify fun world => vocabulary_modifyAdjective _ fun _ => rfl
  · exact .of_result _

theorem keepsWords_alternatives (low high : Nat) : KeepsWords words (s.alternatives low high) := by
  refine .of_lift fun _ _ => .of_lift fun kind _ => .of_lift fun series _ =>
    .of_lift fun alternatives _ => KeepsWords.of_modify fun world => ?_
  refine (vocabulary_modifyKind kind ?_).trans (vocabulary_makeTraitsRelevant kind alternatives)
  exact fun _ => rfl

theorem keepsWords_choiceBetween : KeepsWords words s.choiceBetween :=
  .of_lift fun low _ => .of_lift fun high _ => keepsWords_alternatives low high

theorem keepsWords_choiceUpTo : KeepsWords words s.choiceUpTo :=
  .of_lift fun high _ => keepsWords_alternatives 0 high

theorem keepsWords_possibility : KeepsWords words s.possibility := by
  refine .of_lift fun series _ => ?_
  split_ifs
  · exact keepsWords_alternatives 0 1
  · exact .of_lift fun kind _ => .of_lift fun traits _ =>
      KeepsWords.of_modify fun world => vocabulary_makeTraitsRelevant kind traits

theorem keepsWords_generality : KeepsWords words s.generality := by
  refine .of_lift fun phrase _ => .of_lift fun series _ => .of_lift fun conditions _ => ?_
  split_ifs
  · exact .of_lift fun _ _ => keepsWords_alternatives 1 1
  · exact keepsWords_alternatives 1 1
  · refine .of_lift fun kind _ => .of_lift fun consequents _ =>
      KeepsWords.of_modify fun world => ?_
    refine (vocabulary_modifyKind kind ?_).trans
      ((vocabulary_makeTraitsRelevant kind consequents).trans
        (vocabulary_makeTraitsRelevant kind conditions))
    exact fun _ => rfl

/-! ## Declarations about verbs -/

theorem keepsWords_wayOf : KeepsWords words s.wayOf := by
  refine .of_lift fun specific _ => .of_lift fun general _ => ?_
  have way : KeepsWords words (modify (·.addWayOf specific general) : Edit Unit) :=
    KeepsWords.of_modify fun world => vocabulary_addWayOf specific general
  dsimp only
  split_ifs
  · exact .of_lift fun _ _ => way
  · exact way

theorem keepsWords_frequency : KeepsWords words s.frequency := by
  refine .of_lift fun verb _ => .of_lift fun phrase _ => ?_
  split
  · exact KeepsWords.of_modify fun world => vocabulary_modifyVerb verb fun _ => rfl
  · exact .of_result _

theorem keepsWords_implication : KeepsWords words s.implication :=
  .of_lift fun specific _ => .of_lift fun general _ =>
    KeepsWords.of_modify fun _ => vocabulary_addGeneralization specific general

theorem keepsWords_exclusion : KeepsWords words s.exclusion := by
  refine .of_lift fun a _ => .of_lift fun b _ => ?_
  have exclude : KeepsWords words (modify (·.addExclusion a b) : Edit Unit) :=
    KeepsWords.of_modify fun world => vocabulary_addExclusion a b
  dsimp only
  split_ifs
  · exact .of_lift fun _ _ => exclude
  · exact exclude

theorem keepsWords_relatePhrases (verb : Id .verb) (subject object : NounPhrase) :
    KeepsWords words (s.relatePhrases verb subject object) := by
  refine .of_lift fun subjectKind _ => .of_lift fun objectKind _ =>
    .of_lift fun subjectModifiers _ => .of_lift fun objectModifiers _ => ?_
  refine (keepsWords_declareSignature verb subjectKind objectKind).bind fun _ =>
    Preserves.bind (KeepsWords.of_modify fun world => ?_) fun _ => .of_pure verb
  refine (vocabulary_modifyVerb verb ?_).trans
    ((vocabulary_makeTraitsRelevant objectKind objectModifiers).trans
      (vocabulary_makeTraitsRelevant subjectKind subjectModifiers))
  exact fun _ => rfl

theorem keepsWords_signature : KeepsWords words s.signature := by
  rw [signature_eq]
  refine .of_lift fun verb _ => .of_lift fun subject _ => ?_
  split_ifs
  · exact .of_lift fun object _ => keepsWords_relatePhrases verb subject object
  · exact keepsWords_relatePhrases verb subject subject

theorem keepsWords_law {against : Verb → Bool} {contradiction : String → Contradiction}
    {set : Verb → Verb} (same : ∀ verb, (set verb).names = verb.names) :
    KeepsWords words (s.law against contradiction set) := by
  refine keepsWords_signature.bind fun verb => .of_get fun world => ?_
  have obey : KeepsWords words (modify (·.modifyVerb verb set) : Edit Unit) :=
    KeepsWords.of_modify fun world => vocabulary_modifyVerb verb same
  dsimp only
  split_ifs
  · exact Preserves.bind (.of_throw _) fun _ => obey
  · exact obey

theorem keepsWords_symmetry : KeepsWords words s.symmetry :=
  keepsWords_signature.bind fun verb =>
    KeepsWords.of_modify fun _ => vocabulary_modifyVerb verb fun _ => rfl

theorem keepsWords_bound (verb : Id .verb) (low high : Option Nat) :
    KeepsWords words (s.bound verb low high) := by
  have limit : KeepsWords words (modify (·.modifyVerb verb fun v =>
      { v with lowerBound := low <|> v.lowerBound, upperBound := high <|> v.upperBound }) :
        Edit Unit) :=
    KeepsWords.of_modify fun world => vocabulary_modifyVerb verb fun _ => rfl
  cases low <;> cases high
  · exact limit
  · exact limit
  · exact limit
  · exact .of_lift fun _ _ => limit

theorem keepsWords_relateExactlyOne : KeepsWords words s.relateExactlyOne :=
  keepsWords_signature.bind fun verb => .of_lift fun low _ => keepsWords_bound verb low (some 1)

theorem keepsWords_relateUpTo : KeepsWords words s.relateUpTo :=
  keepsWords_signature.bind fun verb => .of_lift fun low _ => .of_lift fun high _ =>
    keepsWords_bound verb low (some high)

theorem keepsWords_relateAtLeast : KeepsWords words s.relateAtLeast :=
  keepsWords_signature.bind fun verb => .of_lift fun low _ => keepsWords_bound verb (some low) none

theorem keepsWords_relateBetween : KeepsWords words s.relateBetween :=
  keepsWords_signature.bind fun verb => .of_lift fun low _ => .of_lift fun high _ =>
    keepsWords_bound verb (some low) (some high)

theorem keepsWords_relate : KeepsWords words s.relate := by
  refine keepsWords_signature.bind fun verb => .of_lift fun low _ => .of_get fun world => ?_
  split_ifs
  · exact keepsWords_bound verb low none
  · exact .of_pure ()

/-! ## Declarations about properties and parts -/

theorem keepsWords_range : KeepsWords words s.range :=
  .of_lift fun kind _ => .of_lift fun _ _ => .of_lift fun _ _ => .of_lift fun _ _ =>
    .of_lift fun name _ => KeepsWords.of_modify fun _ => vocabulary_addProperty kind name _

theorem keepsWords_menuProperty : KeepsWords words s.menuProperty := by
  refine .of_lift fun kind _ => .of_lift fun source _ => .of_lift fun values _ => ?_
  have offer : KeepsWords words (do
      let name ← s.reading.text 0
      modify fun world =>
        (world.addProperty kind name (.menu (untokenize source) values [])).2 : Edit Unit) :=
    .of_lift fun name _ => KeepsWords.of_modify fun world => vocabulary_addProperty kind name _
  dsimp only
  split_ifs
  · exact .of_lift fun _ _ => offer
  · exact offer

theorem keepsWords_freeText : KeepsWords words s.freeText :=
  .of_lift fun kind _ => .of_lift fun name _ =>
    KeepsWords.of_modify fun _ => vocabulary_addProperty kind name _

theorem keepsWords_part : KeepsWords words s.part := by
  refine .of_lift fun owner _ => .of_lift fun phrase _ => .of_lift fun kind _ =>
    .of_lift fun modifiers _ => .of_lift fun name _ => .of_get fun world => ?_
  have give : KeepsWords words (modify fun world =>
      ((world.makeTraitsRelevant kind modifiers).addPart owner name kind modifiers).2 :
        Edit Unit) :=
    KeepsWords.of_modify fun world => by simp
  dsimp only
  split_ifs
  · exact .of_lift fun _ _ => give
  · exact give

theorem keepsWords_individualValue (id : Id .individual) (name value : List Token) :
    KeepsWords words (individualValue id name value) := by
  refine Leads.of_get fun world kept => ?_
  have set (property : Id .property) (text : String) : Leads (· = world)
      (set (world.modifyIndividual id fun individual =>
        { individual with
          properties :=
            individual.properties.filter (·.1 != property) ++ [(property, text)] }) : Edit PUnit)
      fun _ later => later.vocabulary = words :=
    KeepsWords.of_set (vocabulary_modifyIndividual id fun _ => rfl) kept
  dsimp only
  split
  · exact .of_throw _
  · split
    · split_ifs
      · exact .bind (.of_throw _) fun _ => set _ _
      · exact set _ _
    · exact set _ _

theorem keepsWords_kindValues (id : Id .kind) (phrase : NounPhrase) (name value : List Token) :
    KeepsWords words (s.kindValues id phrase name value) := by
  refine Leads.of_get fun world kept => ?_
  dsimp only
  split
  · exact .of_throw _
  · refine .of_lift fun modifiers _ => ?_
    split
    · split_ifs
      · exact KeepsWords.of_set rfl kept
      · exact .of_throw _
    · exact .of_throw _

theorem keepsWords_propertyValue : KeepsWords words s.propertyValue := by
  refine .of_lift fun phrase _ => .of_lift fun name _ => .of_lift fun value _ =>
    .of_lift fun concept _ => ?_
  split
  · exact keepsWords_individualValue _ name value
  · exact keepsWords_kindValues _ phrase name value
  · exact .of_result _

/-! ## All declarations -/

/-- Declarations leave the words of a world as they are, unless they give a kind another name. -/
theorem keepsWords_declare {declaration : Declaration} (plural : declaration ≠ .pluralForm)
    (singular : declaration ≠ .singularForm) : KeepsWords words (s.declare declaration) := by
  cases declaration with
  | subkinds => exact keepsWords_subkinds
  | subkind => exact keepsWords_subkind
  | pluralForm => exact absurd rfl plural
  | singularForm => exact absurd rfl singular
  | membership => exact keepsWords_membership
  | description => exact keepsWords_template fun _ _ => rfl
  | naming => exact keepsWords_template fun _ _ => rfl
  | silence => exact keepsWords_silence
  | attributes => exact keepsWords_attributes
  | choiceBetween => exact keepsWords_choiceBetween
  | choiceUpTo => exact keepsWords_choiceUpTo
  | possibility => exact keepsWords_possibility
  | generality => exact keepsWords_generality
  | wayOf => exact keepsWords_wayOf
  | frequency => exact keepsWords_frequency
  | implication => exact keepsWords_implication
  | exclusion => exact keepsWords_exclusion
  | symmetry => exact keepsWords_symmetry
  | antisymmetry => exact keepsWords_law fun _ => rfl
  | irreflexivity => exact keepsWords_law fun _ => rfl
  | reflexivity => exact keepsWords_law fun _ => rfl
  | relateExactlyOne => exact keepsWords_relateExactlyOne
  | relateUpTo => exact keepsWords_relateUpTo
  | relateAtLeast => exact keepsWords_relateAtLeast
  | relateBetween => exact keepsWords_relateBetween
  | relate => exact keepsWords_relate
  | range => exact keepsWords_range
  | menu => exact keepsWords_menuProperty
  | part => exact keepsWords_part
  | freeText => exact keepsWords_freeText
  | propertyValue => exact keepsWords_propertyValue
  | shouldExist => exact keepsWords_expectation true
  | shouldNotExist => exact keepsWords_expectation false

end Statement

end Worldsmith
