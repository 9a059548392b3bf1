import Worldsmith.Proofs.Sentence.Mentions
import Worldsmith.Proofs.World.Growth
import Worldsmith.Statement.Performance

/-!
# Declarations make changes

Whatever a sentence declares, it declares of concepts of the world and of those that it has coined.
So all that it does is to make changes of the world, one after another.

## Main statements

* `Statement.evolves_declare` — what is declared makes changes of a sound world.
* `Reading.evolves_perform` — so does all that a sentence does.
-/

namespace Worldsmith

namespace Statement

open World Edit

variable {base world : World} {s : Statement} {phrase : NounPhrase} {n : Nat}

/-- Whether all that a statement is about are concepts of the world. -/
structure IsIn (world : World) (s : Statement) : Prop where
  reading : s.reading.IsIn world
  coined : ∀ concept ∈ s.coined, world.Holds concept

namespace IsIn

variable (isIn : s.IsIn base)
include isIn

theorem concept {mention : Mention} {found : Concept} (among : mention.IsIn base)
    (made : s.concept mention = .ok found) : base.Holds found := by
  cases mention with
  | known =>
    cases made
    exact among
  | coined index =>
    rw [Statement.concept] at made
    split at made
    · rename_i known
      cases made
      exact isIn.coined _ (List.mem_of_getElem? known)
    · cases made

theorem kind {id : Id .kind} (among : phrase.IsIn base) (made : s.kind phrase = .ok id) :
    base.Owns id := by
  obtain ⟨found, stands, made⟩ := exists_of_bind_eq_ok made
  split at made
  · cases made
    exact isIn.concept among.head stands
  · cases made

theorem verbOf {mention : Mention} {id : Id .verb} (among : mention.IsIn base)
    (made : s.verbOf mention = .ok id) : base.Owns id := by
  obtain ⟨found, stands, made⟩ := exists_of_bind_eq_ok made
  split at made
  · cases made
    exact isIn.concept among stands
  · cases made

omit isIn in
theorem exists_of_nth {α : Type} {reading : Reading} {sort : String}
    {select : Constituent → Option α} {a : α} (made : reading.nth sort select n = .ok a) :
    ∃ constituent ∈ reading.constituents, select constituent = some a := by
  rw [Reading.nth] at made
  split at made
  · rename_i found
    cases made
    exact List.mem_filterMap.mp (List.mem_of_getElem? found)
  · cases made

theorem noun (made : s.reading.noun n = .ok phrase) : phrase.IsIn base := by
  obtain ⟨constituent, mem, select⟩ := exists_of_nth made
  cases constituent <;> cases select
  exact isIn.reading _ mem

theorem nouns {series : Series NounPhrase} (made : s.reading.nouns n = .ok series) :
    ∀ phrase ∈ series.items, phrase.IsIn base := by
  obtain ⟨constituent, mem, select⟩ := exists_of_nth made
  cases constituent <;> cases select
  exact isIn.reading _ mem

theorem kindAt {id : Id .kind} (made : s.kindAt n = .ok id) : base.Owns id := by
  obtain ⟨phrase, read, made⟩ := exists_of_bind_eq_ok made
  exact isIn.kind (isIn.noun read) made

theorem verbAt {id : Id .verb} (made : s.verbAt n = .ok id) : base.Owns id := by
  obtain ⟨mention, read, made⟩ := exists_of_bind_eq_ok made
  obtain ⟨constituent, mem, select⟩ := exists_of_nth read
  cases constituent <;> cases select
  exact isIn.verbOf (isIn.reading _ mem) made

theorem trait {modifier : Modifier} {trait : Trait} (among : modifier.mention.IsIn base)
    (made : s.trait modifier = .ok trait) : trait.IsIn base := by
  obtain ⟨found, stands, made⟩ := exists_of_bind_eq_ok made
  have held := isIn.concept among stands
  cases found with
  | kind | adjective =>
    cases made
    exact held
  | verb | individual => cases made

theorem modifiers {traits : List Trait} (among : phrase.IsIn base)
    (made : s.modifiers phrase = .ok traits) : ∀ trait ∈ traits, trait.IsIn base := by
  intro trait mem
  obtain ⟨modifier, said, comes⟩ := exists_of_mapM_eq_ok made trait mem
  exact isIn.trait (among.modifiers modifier said) comes

theorem adjectives {series : Series Modifier} {traits : List Trait}
    (read : s.reading.adjectives n = .ok series) (made : s.traits series = .ok traits) :
    ∀ trait ∈ traits, trait.IsIn base := by
  obtain ⟨constituent, mem, select⟩ := exists_of_nth read
  cases constituent <;> cases select
  intro trait among
  obtain ⟨modifier, said, comes⟩ := exists_of_mapM_eq_ok made trait among
  exact isIn.trait (isIn.reading _ mem modifier said) comes

end IsIn

theorem le_of_checkBounds {low high : Nat} (made : s.checkBounds low high = .ok ()) :
    low ≤ high := by
  unfold checkBounds at made
  split_ifs at made with crossed
  · cases made
  · exact Nat.le_of_not_lt crossed

/-- Declare that a verb relates what two noun phrases say. -/
def relatePhrases (s : Statement) (verb : Id .verb) (subject object : NounPhrase) :
    Edit (Id .verb) := do
  let subjectKind ← s.kind subject
  let objectKind ← s.kind object
  let subjectModifiers ← s.modifiers subject
  let objectModifiers ← s.modifiers object
  Edit.declareSignature verb subjectKind objectKind
  modify fun world =>
    ((world.makeTraitsRelevant subjectKind subjectModifiers).makeTraitsRelevant
      objectKind objectModifiers).modifyVerb verb fun v =>
        { v with
          subjectModifiers := World.adjoinAll subjectModifiers v.subjectModifiers
          objectModifiers := World.adjoinAll objectModifiers v.objectModifiers }
  return verb

/-- A verb relates what the first noun phrase says to what the second one says, if there is one, and
to the same otherwise. -/
theorem signature_eq : s.signature = (do
    let verb ← s.verbAt 0
    let subject ← s.reading.noun 0
    if 1 < s.reading.nounCount then
      let object ← s.reading.noun 1
      s.relatePhrases verb subject object
    else s.relatePhrases verb subject subject) := by
  unfold signature relatePhrases
  split_ifs
  · rfl
  · simp only [pure_bind]

section Declaring

variable (isIn : s.IsIn base)
include isIn

/-! ## Declarations about kinds and individuals -/

theorem evolves_subkinds : Preserves base.Evolves s.subkinds := by
  refine .of_lift fun parent hp => .of_lift fun series hs => .forM _ fun phrase mem => ?_
  refine .of_lift fun sub hk => ?_
  exact evolves_declareSuperkind (isIn.kind (isIn.nouns hs phrase mem) hk) (isIn.kindAt hp)

theorem evolves_subkind : Preserves base.Evolves s.subkind := by
  refine .of_lift fun sub hs => .of_lift fun parent hp => ?_
  exact evolves_declareSuperkind (isIn.kindAt hs) (isIn.kindAt hp)

theorem evolves_kindForm (number : GrammaticalNumber) :
    Preserves base.Evolves (s.kindForm number) :=
  .of_lift fun _ hk => .of_lift fun name _ => evolves_setKindForm (isIn.kindAt hk) name number

omit isIn in
theorem evolves_template {set : Template → Kind → Kind}
    (plain : ∀ t kind, ∃ singular plural name description, set t kind =
      { kind with
        singular := singular
        plural := plural
        nameTemplate := name
        descriptionTemplate := description }) :
    Preserves base.Evolves (s.template set) := by
  refine .of_lift fun kind _ => .of_lift fun _ _ => ?_
  exact (Preserves.of_grammatical _).bind fun template => .of_change fun world _ =>
    .kind kind (.wording (plain template))

theorem evolves_membership : Preserves base.Evolves s.membership := by
  refine .of_lift fun phrase _ => .of_lift fun individual _ => .of_lift fun phrase' hp =>
    .of_lift fun kind hk => .of_lift fun modifiers hm => .of_becomes fun world start => ?_
  have owned := (isIn.kind (isIn.noun hp) hk).mono start.grows
  have traitsIn := forall_isIn_mono start.grows (isIn.modifiers (isIn.noun hp) hm)
  have relevant := becomes_makeTraitsRelevant owned traitsIn
  exact relevant.tail (.classify individual kind modifiers (owned.mono relevant.grows)
    (forall_isIn_mono relevant.grows traitsIn))

theorem evolves_attributes : Preserves base.Evolves s.attributes := by
  refine .of_lift fun phrase _ => .of_lift fun individual _ => .of_lift fun series hs =>
    .of_lift fun traits ht => .of_becomes fun world start => ?_
  have traitsIn := forall_isIn_mono start.grows (isIn.adjectives hs ht)
  have relevant := becomes_foldl_makeTraitsRelevant (start.closed.individual individual).kinds
    traitsIn
  exact relevant.tail (.characterize individual traits (forall_isIn_mono relevant.grows traitsIn))

theorem evolves_expectation (shouldExist : Bool) :
    Preserves base.Evolves (s.expectation shouldExist) := by
  refine .of_lift fun phrase hp => .of_lift fun kind hk => .of_lift fun modifiers hm =>
    .of_change fun world start => .expectation _ ⟨?_, ?_⟩
  · exact (isIn.kind (isIn.noun hp) hk).mono start.grows
  · exact forall_isIn_mono start.grows (isIn.modifiers (isIn.noun hp) hm)

/-! ## Declarations about adjectives -/

omit isIn in
theorem evolves_silence : Preserves base.Evolves s.silence := by
  refine .of_lift fun modifier _ => .of_lift fun trait _ => ?_
  split
  · exact .of_change fun world _ => .silent _
  · exact .of_result _

theorem evolves_alternatives (low high : Nat) :
    Preserves base.Evolves (s.alternatives low high) := by
  refine .of_lift fun _ inOrder => .of_lift fun kind hk => .of_lift fun series hs =>
    .of_lift fun alternatives ha => .of_becomes fun world start => ?_
  have traitsIn := forall_isIn_mono start.grows (isIn.adjectives hs ha)
  have relevant := becomes_makeTraitsRelevant ((isIn.kindAt hk).mono start.grows) traitsIn
  exact relevant.tail (.kind kind (.alternatives ⟨alternatives, low, high⟩
    (le_of_checkBounds inOrder) (forall_isIn_mono relevant.grows traitsIn)))

theorem evolves_choiceBetween : Preserves base.Evolves s.choiceBetween :=
  .of_lift fun low _ => .of_lift fun high _ => evolves_alternatives isIn low high

theorem evolves_choiceUpTo : Preserves base.Evolves s.choiceUpTo :=
  .of_lift fun high _ => evolves_alternatives isIn 0 high

theorem evolves_possibility : Preserves base.Evolves s.possibility := by
  refine .of_lift fun series hs => ?_
  split_ifs
  · exact evolves_alternatives isIn 0 1
  · refine .of_lift fun kind hk => .of_lift fun traits ht => .of_becomes fun world start => ?_
    exact becomes_makeTraitsRelevant ((isIn.kindAt hk).mono start.grows)
      (forall_isIn_mono start.grows (isIn.adjectives hs ht))

theorem evolves_generality : Preserves base.Evolves s.generality := by
  refine .of_lift fun phrase hp => .of_lift fun series hs => .of_lift fun conditions hc => ?_
  split_ifs
  · exact .of_lift fun _ _ => evolves_alternatives isIn 1 1
  · exact evolves_alternatives isIn 1 1
  · refine .of_lift fun kind hk => .of_lift fun consequents ht =>
      .of_becomes fun world start => ?_
    have owned := (isIn.kind (isIn.noun hp) hk).mono start.grows
    have conditionsIn := forall_isIn_mono start.grows (isIn.modifiers (isIn.noun hp) hc)
    have consequentsIn := forall_isIn_mono start.grows (isIn.adjectives hs ht)
    have first := becomes_makeTraitsRelevant owned conditionsIn
    have relevant := first.trans (becomes_makeTraitsRelevant (owned.mono first.grows)
      (forall_isIn_mono first.grows consequentsIn))
    exact relevant.tail (.kind kind (.implications conditions consequents
      (forall_isIn_mono relevant.grows conditionsIn)
      (forall_isIn_mono relevant.grows consequentsIn)))

/-! ## Declarations about verbs -/

theorem evolves_wayOf : Preserves base.Evolves s.wayOf := by
  refine .of_lift fun specific hs => .of_lift fun general hg => ?_
  dsimp only
  split_ifs with same
  · exact .of_lift fun _ objected => nomatch objected
  · exact .of_change fun world start => .wayOf specific general
      ((isIn.verbAt hs).mono start.grows) ((isIn.verbAt hg).mono start.grows) same

omit isIn in
theorem evolves_frequency : Preserves base.Evolves s.frequency := by
  refine .of_lift fun verb _ => .of_lift fun phrase _ => ?_
  split
  · exact .of_change fun world _ => .verb verb (.density _)
  · exact .of_result _

theorem evolves_implication : Preserves base.Evolves s.implication := by
  refine .of_lift fun specific _ => .of_lift fun general hg => .of_change fun world start => ?_
  exact .verb specific (.generalization general ((isIn.verbAt hg).mono start.grows))

theorem evolves_exclusion : Preserves base.Evolves s.exclusion := by
  refine .of_lift fun a ha => .of_lift fun b hb => ?_
  dsimp only
  split_ifs with same
  · exact .of_lift fun _ objected => nomatch objected
  · exact .of_change fun world start => .exclusion a b
      ((isIn.verbAt ha).mono start.grows) ((isIn.verbAt hb).mono start.grows) same

theorem evolves_relatePhrases (verb : Id .verb) {subject object : NounPhrase}
    (subjectIn : subject.IsIn base) (objectIn : object.IsIn base) :
    Preserves base.Evolves (s.relatePhrases verb subject object) := by
  refine .of_lift fun subjectKind hsk => .of_lift fun objectKind hok =>
    .of_lift fun subjectModifiers hsm => .of_lift fun objectModifiers hom => ?_
  have subjectOwned : base.Owns subjectKind := isIn.kind subjectIn hsk
  have objectOwned : base.Owns objectKind := isIn.kind objectIn hok
  refine (evolves_declareSignature verb subjectOwned objectOwned).bind fun _ =>
    Preserves.bind (.of_becomes fun world start => ?_) fun _ => .of_pure verb
  have subjectIn := forall_isIn_mono start.grows (isIn.modifiers subjectIn hsm)
  have objectIn := forall_isIn_mono start.grows (isIn.modifiers objectIn hom)
  have first := becomes_makeTraitsRelevant (subjectOwned.mono start.grows) subjectIn
  have relevant := first.trans (becomes_makeTraitsRelevant
    ((objectOwned.mono start.grows).mono first.grows) (forall_isIn_mono first.grows objectIn))
  exact relevant.tail (.verb verb (.modifiers subjectModifiers objectModifiers
    (forall_isIn_mono relevant.grows subjectIn) (forall_isIn_mono relevant.grows objectIn)))

theorem evolves_signature : Preserves base.Evolves s.signature := by
  rw [signature_eq]
  refine .of_lift fun verb _ => .of_lift fun subject hs => ?_
  split_ifs
  · exact .of_lift fun object ho =>
      evolves_relatePhrases isIn verb (isIn.noun hs) (isIn.noun ho)
  · exact evolves_relatePhrases isIn verb (isIn.noun hs) (isIn.noun hs)

theorem evolves_law {against : Verb → Bool} {contradiction : String → Contradiction}
    {set : Verb → Verb}
    (change : ∀ (world : World) verb, against (world.verb verb) = false →
      world.VerbChange verb set) :
    Preserves base.Evolves (s.law against contradiction set) := by
  refine (evolves_signature isIn).bind fun verb => Leads.of_get fun world start => ?_
  dsimp only
  split_ifs with opposed
  · exact .of_throw_bind _ _
  · refine .of_modify ?_
    rintro _ rfl
    exact start.of_change (.verb verb (change _ verb (by simpa using opposed)))

theorem evolves_symmetry : Preserves base.Evolves s.symmetry :=
  (evolves_signature isIn).bind fun verb => .of_change fun _ _ => .verb verb .symmetric

omit isIn in
theorem evolves_bound (verb : Id .verb) (low high : Option Nat) :
    Preserves base.Evolves (s.bound verb low high) := by
  have limit (inOrder : ∀ l ∈ low, ∀ h ∈ high, l ≤ h) :
      Preserves base.Evolves (modify (·.modifyVerb verb fun v =>
        { v with lowerBound := low <|> v.lowerBound, upperBound := high <|> v.upperBound }) :
          Edit Unit) :=
    .of_change fun world _ => .verb verb (.bound low high inOrder)
  cases low <;> cases high
  · exact limit (by simp)
  · exact limit (by simp)
  · exact limit (by simp)
  · exact .of_lift fun _ checked => limit (by simpa using le_of_checkBounds checked)

theorem evolves_relateExactlyOne : Preserves base.Evolves s.relateExactlyOne :=
  (evolves_signature isIn).bind fun verb => .of_lift fun low _ => evolves_bound verb low (some 1)

theorem evolves_relateUpTo : Preserves base.Evolves s.relateUpTo :=
  (evolves_signature isIn).bind fun verb => .of_lift fun low _ => .of_lift fun high _ =>
    evolves_bound verb low (some high)

theorem evolves_relateAtLeast : Preserves base.Evolves s.relateAtLeast :=
  (evolves_signature isIn).bind fun verb => .of_lift fun low _ =>
    evolves_bound verb (some low) none

theorem evolves_relateBetween : Preserves base.Evolves s.relateBetween :=
  (evolves_signature isIn).bind fun verb => .of_lift fun low _ => .of_lift fun high _ =>
    evolves_bound verb (some low) (some high)

theorem evolves_relate : Preserves base.Evolves s.relate := by
  refine (evolves_signature isIn).bind fun verb => .of_lift fun low _ => .of_get fun world => ?_
  split_ifs
  · exact evolves_bound verb low none
  · exact .of_pure ()

/-! ## Declarations about properties and parts -/

theorem evolves_range : Preserves base.Evolves s.range := by
  refine .of_lift fun kind hk => .of_lift fun low _ => .of_lift fun high _ =>
    .of_lift fun _ inOrder => .of_lift fun name _ => .of_change fun world start => ?_
  exact .property kind name _ ((isIn.kindAt hk).mono start.grows)
    ⟨low, high, le_of_checkBounds inOrder, rfl, rfl⟩

theorem evolves_menuProperty : Preserves base.Evolves s.menuProperty := by
  refine .of_lift fun kind hk => .of_lift fun source _ => .of_lift fun values _ => ?_
  dsimp only
  split_ifs with none
  · exact .of_lift fun _ objected => nomatch objected
  · refine .of_lift fun name _ => .of_change fun world start => ?_
    exact .property kind name _ ((isIn.kindAt hk).mono start.grows) ⟨by simpa using none, rfl⟩

theorem evolves_freeText : Preserves base.Evolves s.freeText := by
  refine .of_lift fun kind hk => .of_lift fun name _ => .of_change fun world start => ?_
  exact .property kind name _ ((isIn.kindAt hk).mono start.grows) trivial

theorem evolves_part : Preserves base.Evolves s.part := by
  refine .of_lift fun owner ho => .of_lift fun phrase hp => .of_lift fun kind hk =>
    .of_lift fun modifiers hm => .of_lift fun name _ => .of_get fun _ => ?_
  have give : Preserves base.Evolves (modify fun world =>
      ((world.makeTraitsRelevant kind modifiers).addPart owner name kind modifiers).2 :
        Edit Unit) := by
    refine .of_becomes fun world start => ?_
    have owned := (isIn.kind (isIn.noun hp) hk).mono start.grows
    have traitsIn := forall_isIn_mono start.grows (isIn.modifiers (isIn.noun hp) hm)
    have relevant := becomes_makeTraitsRelevant owned traitsIn
    exact relevant.tail (.part owner name kind modifiers
      (((isIn.kindAt ho).mono start.grows).mono relevant.grows) (owned.mono relevant.grows)
      (forall_isIn_mono relevant.grows traitsIn))
  dsimp only
  split_ifs
  · exact .of_lift fun _ _ => give
  · exact give

omit isIn in
theorem evolves_individualValue (id : Id .individual) (name value : List Token) :
    Preserves base.Evolves (individualValue id name value) := by
  refine Leads.of_get fun world start => ?_
  dsimp only
  split
  · exact .of_throw _
  · rename_i property found
    have set (text : String) : Leads (· = world)
        (set (world.modifyIndividual id fun individual =>
          { individual with
            properties :=
              individual.properties.filter (·.1 != property) ++ [(property, text)] }) : Edit PUnit)
        fun _ => base.Evolves := by
      obtain ⟨kind, -, found⟩ := List.exists_of_findSome?_eq_some found
      refine .of_set fun _ _ => start.of_change ?_
      exact .value id property text (start.closed.owns_of_findProperty? found)
    split
    · split_ifs
      · exact .of_throw_bind _ _
      · exact set _
    · exact set _

theorem evolves_kindValues {id : Id .kind} (owned : base.Owns id) (phraseIn : phrase.IsIn base)
    (name value : List Token) : Preserves base.Evolves (s.kindValues id phrase name value) := by
  refine Leads.of_get fun world start => ?_
  dsimp only
  split
  · exact .of_throw _
  · refine .of_lift fun modifiers hm => ?_
    split
    · rename_i source values restrictions known
      split_ifs
      · refine .of_set fun _ _ => start.of_change (.restriction _ _ _ _ _ known ?_)
        exact List.forall_mem_cons.mpr ⟨owned.mono start.grows,
          forall_isIn_mono start.grows (isIn.modifiers phraseIn hm)⟩
      · exact .of_throw _
    · exact .of_throw _

theorem evolves_propertyValue : Preserves base.Evolves s.propertyValue := by
  refine .of_lift fun phrase hp => .of_lift fun name _ => .of_lift fun value _ =>
    .of_lift fun concept hc => ?_
  split
  · exact evolves_individualValue _ name value
  · exact evolves_kindValues isIn (isIn.concept (isIn.noun hp).head hc) (isIn.noun hp) name value
  · exact .of_result _

/-! ## Sentences -/

/-- What is declared makes changes of a world. -/
theorem evolves_declare (declaration : Declaration) :
    Preserves base.Evolves (s.declare declaration) := by
  cases declaration with
  | subkinds => exact evolves_subkinds isIn
  | subkind => exact evolves_subkind isIn
  | pluralForm => exact evolves_kindForm isIn .plural
  | singularForm => exact evolves_kindForm isIn .singular
  | membership => exact evolves_membership isIn
  | description => exact evolves_template fun _ _ => ⟨_, _, _, _, rfl⟩
  | naming => exact evolves_template fun _ _ => ⟨_, _, _, _, rfl⟩
  | silence => exact evolves_silence
  | attributes => exact evolves_attributes isIn
  | choiceBetween => exact evolves_choiceBetween isIn
  | choiceUpTo => exact evolves_choiceUpTo isIn
  | possibility => exact evolves_possibility isIn
  | generality => exact evolves_generality isIn
  | wayOf => exact evolves_wayOf isIn
  | frequency => exact evolves_frequency
  | implication => exact evolves_implication isIn
  | exclusion => exact evolves_exclusion isIn
  | symmetry => exact evolves_symmetry isIn
  | antisymmetry => exact evolves_law isIn fun _ _ => .antiSymmetric
  | irreflexivity => exact evolves_law isIn fun _ _ => .antiReflexive
  | reflexivity => exact evolves_law isIn fun _ _ => .reflexive
  | relateExactlyOne => exact evolves_relateExactlyOne isIn
  | relateUpTo => exact evolves_relateUpTo isIn
  | relateAtLeast => exact evolves_relateAtLeast isIn
  | relateBetween => exact evolves_relateBetween isIn
  | relate => exact evolves_relate isIn
  | range => exact evolves_range isIn
  | menu => exact evolves_menuProperty isIn
  | part => exact evolves_part isIn
  | freeText => exact evolves_freeText isIn
  | propertyValue => exact evolves_propertyValue isIn
  | shouldExist => exact evolves_expectation isIn true
  | shouldNotExist => exact evolves_expectation isIn false

end Declaring

end Statement

open World Edit

variable {base : World}

theorem Coinage.leads_create (coinage : Coinage) : Leads base.Evolves coinage.create
    fun concept world => base.Evolves world ∧ world.Holds concept := by
  cases coinage with
  | kind singular plural => exact .bind (leads_addKind _ _) fun _ => .of_pure _ fun _ => id
  | adjective name => exact .bind (leads_addAdjective name) fun _ => .of_pure _ fun _ => id
  | verb verb => exact .bind (leads_addVerb base verb) fun _ => .of_pure _ fun _ => id
  | individual name => exact .bind (leads_addIndividual name) fun _ => .of_pure _ fun _ => id

/-- What has been made stays while more is made. -/
theorem Coinage.leads_mapM_create (coinages : List Coinage) : Leads base.Evolves
    (coinages.mapM Coinage.create)
      fun coined world => base.Evolves world ∧ ∀ concept ∈ coined, world.Holds concept := by
  induction coinages generalizing base with
  | nil => exact .of_pure [] fun _ start => ⟨start, by simp⟩
  | cons coinage rest ih =>
    rw [List.mapM_cons]
    refine .bind coinage.leads_create fun concept => .of_each fun world ⟨start, held⟩ => ?_
    have going : Leads (· = world) (rest.mapM Coinage.create) _ :=
      (@ih world).weaken (fun _ same => same ▸ start.refl) fun _ _ => id
    refine .bind going fun others => .of_pure _ fun later ⟨evolves, made⟩ => ?_
    exact ⟨start.trans evolves, List.forall_mem_cons.mpr ⟨evolves.grows.holds held, made⟩⟩

/-- All that a sentence does makes changes of a world. -/
theorem Reading.evolves_perform {reading : Reading} (isIn : reading.IsIn base) (line : String)
    (menu : String → Except ResourceError (List String)) (declaration : Declaration) :
    Preserves base.Evolves (reading.perform line menu declaration) := by
  refine Leads.bind (Coinage.leads_mapM_create reading.coinages) fun coined =>
    .of_each fun world ⟨start, made⟩ => ?_
  have about : Statement.IsIn world ⟨line, reading, coined, menu⟩ :=
    ⟨isIn.mono fun _ => start.grows.holds, made⟩
  exact leads_of_later start
    ((Statement.evolves_declare about declaration).bind fun _ => .of_pure _)

end Worldsmith
