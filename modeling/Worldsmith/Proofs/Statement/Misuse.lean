import Worldsmith.Proofs.Sentence.Gaps
import Worldsmith.Proofs.Statement.Declarations
import Worldsmith.Proofs.World.Misuse

/-!
# Statements are no misuse

A statement is refused for what it says, never because its sentence lacks something. What is looked
for in a sentence is there, since its pattern has left gaps for it; and what the sentence has coined
has been made before its phrases are looked at.

## Main definitions

* `Statement.IsReady` — all that the sentence of a statement mentions is known or has been made.

## Main statements

* `Statement.fair_declare` — what is declared by a sentence that provides it is no misuse.
* `Reading.fair_perform` — neither is all that the sentence does.
-/

namespace Worldsmith

/-! ## Looking for constituents -/

namespace Reading

variable {reading : Reading} {n : Nat}

section Sorts

variable {α : Type} {select : Constituent → Option α} {gap : Gap}
  (selects : ∀ constituent, (select constituent).isSome = (constituent.gap == gap))
include selects

theorem length_filterMap_eq_count :
    (reading.constituents.filterMap select).length = reading.gaps.count gap := by
  rw [List.length_filterMap_eq_countP, gaps, List.count_eq_countP, List.countP_map]
  exact List.countP_congr fun constituent _ => by simp [selects constituent]

/-- As many constituents of a sort can be looked for as there are. -/
theorem fair_nth {sort : String} (inside : n < reading.gaps.count gap) :
    Result.Fair (reading.nth sort select n) := by
  rw [← length_filterMap_eq_count selects] at inside
  rw [nth, List.getElem?_eq_getElem inside]
  exact .ok _

end Sorts

/-- A noun phrase can be looked for if it is counted. -/
theorem fair_noun_of_lt_nounCount (inside : n < reading.nounCount) :
    Result.Fair (reading.noun n) := by
  have selects (constituent : Constituent) :
      constituent.noun?.isSome = (constituent.gap == .noun) := by cases constituent <;> rfl
  rw [nounCount, length_filterMap_eq_count selects] at inside
  exact fair_nth selects inside

namespace Provides

variable {demands : List Gap} (provides : reading.Provides demands)
include provides

theorem noun (asked : n < demands.count .noun) : Result.Fair (reading.noun n) :=
  fair_nth (fun constituent => by cases constituent <;> rfl) (provides.lt_count asked)

theorem nouns (asked : n < demands.count .nouns) : Result.Fair (reading.nouns n) :=
  fair_nth (fun constituent => by cases constituent <;> rfl) (provides.lt_count asked)

theorem adjective (asked : n < demands.count .adjective) : Result.Fair (reading.adjective n) :=
  fair_nth (fun constituent => by cases constituent <;> rfl) (provides.lt_count asked)

theorem adjectives (asked : n < demands.count .adjectives) : Result.Fair (reading.adjectives n) :=
  fair_nth (fun constituent => by cases constituent <;> rfl) (provides.lt_count asked)

theorem verb (asked : n < demands.count .verb) : Result.Fair (reading.verb n) :=
  fair_nth (fun constituent => by cases constituent <;> rfl) (provides.lt_count asked)

theorem count (asked : n < demands.count .count) : Result.Fair (reading.count n) :=
  fair_nth (fun constituent => by cases constituent <;> rfl) (provides.lt_count asked)

theorem text (asked : n < demands.count .text) : Result.Fair (reading.text n) :=
  fair_nth (fun constituent => by cases constituent <;> rfl) (provides.lt_count asked)

theorem choice (asked : n < demands.count .choice) : Result.Fair (reading.choice n) :=
  fair_nth (fun constituent => by cases constituent <;> rfl) (provides.lt_count asked)

end Provides

end Reading

namespace Statement

open Edit

variable {s : Statement} {n : Nat} {phrase : NounPhrase}

/-- Whether all that the sentence of a statement mentions is known or has been made. -/
structure IsReady (s : Statement) : Prop where
  coined : s.coined.length = s.reading.coinages.length
  made : s.reading.IsMade

theorem fair_objection {α : Type} (objection : Objection) :
    Result.Fair (s.objection objection : Except Error α) := nofun

theorem fair_checkBounds (low high : Nat) : Result.Fair (s.checkBounds low high) := by
  unfold checkBounds
  split_ifs
  · exact fair_objection _
  · exact .ok ()

/-- Whether all that a noun phrase mentions is known or has been made. -/
def MentionsMade (s : Statement) (phrase : NounPhrase) : Prop :=
  ∀ mention ∈ phrase.mentions, mention.IsMade s.reading.coinages

namespace IsReady

variable (ready : s.IsReady)
include ready

/-! ## What phrases stand for -/

theorem concept {mention : Mention} (made : mention.IsMade s.reading.coinages) :
    Result.Fair (s.concept mention) := by
  cases mention with
  | known => exact .ok _
  | coined index =>
    have inside : index < s.coined.length := ready.coined ▸ made
    rw [Statement.concept, List.getElem?_eq_getElem inside]
    exact .ok _

theorem kind (made : s.MentionsMade phrase) : Result.Fair (s.kind phrase) := by
  refine (ready.concept (made _ List.mem_cons_self)).bind fun found _ => ?_
  split
  · exact .ok _
  · exact fair_objection _

theorem individual (made : s.MentionsMade phrase) : Result.Fair (s.individual phrase) := by
  refine (ready.concept (made _ List.mem_cons_self)).bind fun found _ => ?_
  split
  · exact .ok _
  · exact fair_objection _

theorem trait {modifier : Modifier} (made : modifier.mention.IsMade s.reading.coinages) :
    Result.Fair (s.trait modifier) := by
  refine (ready.concept made).bind fun found _ => ?_
  split
  · exact .ok _
  · exact fair_objection _

theorem modifiers (made : s.MentionsMade phrase) : Result.Fair (s.modifiers phrase) :=
  .mapM fun _ among =>
    ready.trait (made _ (List.mem_cons_of_mem _ (List.mem_map_of_mem among)))

theorem noun (read : s.reading.noun n = .ok phrase) : s.MentionsMade phrase := by
  obtain ⟨constituent, among, select⟩ := IsIn.exists_of_nth read
  cases constituent <;> cases select
  exact ready.made _ among

theorem nouns {series : Series NounPhrase} (read : s.reading.nouns n = .ok series) :
    ∀ phrase ∈ series.items, s.MentionsMade phrase := by
  obtain ⟨constituent, among, select⟩ := IsIn.exists_of_nth read
  cases constituent <;> cases select
  exact fun phrase inside mention mem =>
    ready.made _ among mention (List.mem_flatMap.mpr ⟨phrase, inside, mem⟩)

theorem adjective {modifier : Modifier} (read : s.reading.adjective n = .ok modifier) :
    Result.Fair (s.trait modifier) := by
  obtain ⟨constituent, among, select⟩ := IsIn.exists_of_nth read
  cases constituent <;> cases select
  exact ready.trait (ready.made _ among _ List.mem_cons_self)

theorem adjectives {series : Series Modifier} (read : s.reading.adjectives n = .ok series) :
    Result.Fair (s.traits series) := by
  obtain ⟨constituent, among, select⟩ := IsIn.exists_of_nth read
  cases constituent <;> cases select
  exact .mapM fun _ inside =>
    ready.trait (ready.made _ among _ (List.mem_map_of_mem inside))

variable {demands : List Gap} (provides : s.reading.Provides demands)
include provides

theorem kindAt (asked : n < demands.count .noun) : Result.Fair (s.kindAt n) :=
  (provides.noun asked).bind fun _ read => ready.kind (ready.noun read)

theorem verbAt (asked : n < demands.count .verb) : Result.Fair (s.verbAt n) := by
  refine (provides.verb asked).bind fun mention read => ?_
  obtain ⟨constituent, among, select⟩ := IsIn.exists_of_nth read
  cases constituent <;> cases select
  refine (ready.concept (ready.made _ among _ List.mem_cons_self)).bind fun found _ => ?_
  split
  · exact .ok _
  · exact fair_objection _

end IsReady

section Declaring

variable (ready : s.IsReady)
include ready

/-! ## Declarations about kinds and individuals -/

theorem fair_subkinds (provides : s.reading.Provides [.noun, .nouns]) : Fair s.subkinds :=
  .of_lift (ready.kindAt provides (by decide)) fun _ _ =>
    .of_lift (provides.nouns (by decide)) fun _ read => .forM _ fun phrase among =>
      .of_lift (ready.kind (ready.nouns read phrase among)) fun _ _ => fair_declareSuperkind _ _

theorem fair_subkind (provides : s.reading.Provides [.noun, .noun]) : Fair s.subkind :=
  .of_lift (ready.kindAt provides (by decide)) fun _ _ =>
    .of_lift (ready.kindAt provides (by decide)) fun _ _ => fair_declareSuperkind _ _

theorem fair_kindForm (provides : s.reading.Provides [.noun, .text])
    (number : GrammaticalNumber) : Fair (s.kindForm number) :=
  .of_lift (ready.kindAt provides (by decide)) fun _ _ =>
    .of_lift (provides.text (by decide)) fun _ _ => fair_setKindForm _ _ number

theorem fair_template (provides : s.reading.Provides [.noun, .text])
    (set : Template → Kind → Kind) : Fair (s.template set) :=
  .of_lift (ready.kindAt provides (by decide)) fun _ _ =>
    .of_lift (provides.text (by decide)) fun _ _ =>
      .bind (.of_grammatical _) fun _ => .of_modify _

theorem fair_membership (provides : s.reading.Provides [.noun, .noun]) : Fair s.membership :=
  .of_lift (provides.noun (by decide)) fun _ read =>
    .of_lift (ready.individual (ready.noun read)) fun _ _ =>
      .of_lift (provides.noun (by decide)) fun _ read =>
        .of_lift (ready.kind (ready.noun read)) fun _ _ =>
          .of_lift (ready.modifiers (ready.noun read)) fun _ _ => .of_modify _

theorem fair_attributes (provides : s.reading.Provides [.noun, .adjectives]) :
    Fair s.attributes :=
  .of_lift (provides.noun (by decide)) fun _ read =>
    .of_lift (ready.individual (ready.noun read)) fun _ _ =>
      .of_lift (provides.adjectives (by decide)) fun _ read =>
        .of_lift (ready.adjectives read) fun _ _ => .of_modify _

theorem fair_expectation (provides : s.reading.Provides [.noun]) (shouldExist : Bool) :
    Fair (s.expectation shouldExist) :=
  .of_lift (provides.noun (by decide)) fun _ read =>
    .of_lift (ready.kind (ready.noun read)) fun _ _ =>
      .of_lift (ready.modifiers (ready.noun read)) fun _ _ => .of_modify _

/-! ## Declarations about adjectives -/

theorem fair_silence (provides : s.reading.Provides [.adjective]) : Fair s.silence := by
  refine .of_lift (provides.adjective (by decide)) fun modifier read =>
    .of_lift (ready.adjective read) fun trait _ => ?_
  split
  · exact .of_modify _
  · exact .of_result (fair_objection _)

theorem fair_alternatives {demands : List Gap} (provides : s.reading.Provides demands)
    (noun : 0 < demands.count .noun) (adjectives : 0 < demands.count .adjectives)
    (low high : Nat) : Fair (s.alternatives low high) :=
  .of_lift (fair_checkBounds low high) fun _ _ =>
    .of_lift (ready.kindAt provides noun) fun _ _ =>
      .of_lift (provides.adjectives adjectives) fun _ read =>
        .of_lift (ready.adjectives read) fun _ _ => .of_modify _

theorem fair_choiceBetween (provides : s.reading.Provides [.noun, .count, .count, .adjectives]) :
    Fair s.choiceBetween :=
  .of_lift (provides.count (by decide)) fun low _ =>
    .of_lift (provides.count (by decide)) fun high _ =>
      fair_alternatives ready provides (by decide) (by decide) low high

theorem fair_choiceUpTo (provides : s.reading.Provides [.noun, .count, .adjectives]) :
    Fair s.choiceUpTo :=
  .of_lift (provides.count (by decide)) fun high _ =>
    fair_alternatives ready provides (by decide) (by decide) 0 high

theorem fair_possibility (provides : s.reading.Provides [.noun, .adjectives]) :
    Fair s.possibility := by
  refine .of_lift (provides.adjectives (by decide)) fun series read => ?_
  split_ifs
  · exact fair_alternatives ready provides (by decide) (by decide) 0 1
  · exact .of_lift (ready.kindAt provides (by decide)) fun _ _ =>
      .of_lift (ready.adjectives read) fun _ _ => .of_modify _

theorem fair_generality (provides : s.reading.Provides [.noun, .adjectives]) :
    Fair s.generality := by
  refine .of_lift (provides.noun (by decide)) fun phrase named =>
    .of_lift (provides.adjectives (by decide)) fun series read =>
      .of_lift (ready.modifiers (ready.noun named)) fun conditions _ => ?_
  have choice : Fair (s.alternatives 1 1) :=
    fair_alternatives ready provides (by decide) (by decide) 1 1
  split_ifs
  · exact .of_lift (fair_objection _) fun _ _ => choice
  · exact choice
  · exact .of_lift (ready.kind (ready.noun named)) fun _ _ =>
      .of_lift (ready.adjectives read) fun _ _ => .of_modify _

/-! ## Declarations about verbs -/

theorem fair_wayOf (provides : s.reading.Provides [.verb, .verb]) : Fair s.wayOf := by
  refine .of_lift (ready.verbAt provides (by decide)) fun specific _ =>
    .of_lift (ready.verbAt provides (by decide)) fun general _ => ?_
  dsimp only
  split_ifs
  · exact .of_lift (fair_objection _) fun _ _ => .of_modify _
  · exact .of_modify _

theorem fair_frequency (provides : s.reading.Provides [.verb, .choice]) : Fair s.frequency := by
  refine .of_lift (ready.verbAt provides (by decide)) fun verb _ =>
    .of_lift (provides.choice (by decide)) fun phrase _ => ?_
  split
  · exact .of_modify _
  · exact .of_result (fair_objection _)

theorem fair_implication (provides : s.reading.Provides [.verb, .verb]) : Fair s.implication :=
  .of_lift (ready.verbAt provides (by decide)) fun _ _ =>
    .of_lift (ready.verbAt provides (by decide)) fun _ _ => .of_modify _

theorem fair_exclusion (provides : s.reading.Provides [.verb, .verb]) : Fair s.exclusion := by
  refine .of_lift (ready.verbAt provides (by decide)) fun a _ =>
    .of_lift (ready.verbAt provides (by decide)) fun b _ => ?_
  dsimp only
  split_ifs
  · exact .of_lift (fair_objection _) fun _ _ => .of_modify _
  · exact .of_modify _

theorem fair_relatePhrases (verb : Id .verb) {subject object : NounPhrase}
    (subjectMade : s.MentionsMade subject) (objectMade : s.MentionsMade object) :
    Fair (s.relatePhrases verb subject object) :=
  .of_lift (ready.kind subjectMade) fun _ _ => .of_lift (ready.kind objectMade) fun _ _ =>
    .of_lift (ready.modifiers subjectMade) fun _ _ =>
      .of_lift (ready.modifiers objectMade) fun _ _ =>
        (fair_declareSignature _ _ _).bind fun _ => .bind (.of_modify _) fun _ => .of_pure _

/-- What a verb relates is told by the first noun phrase, and by the second one if there is one. -/
theorem fair_signature {demands : List Gap} (provides : s.reading.Provides demands)
    (verb : 0 < demands.count .verb) (noun : 0 < demands.count .noun) : Fair s.signature := by
  rw [signature_eq]
  refine .of_lift (ready.verbAt provides verb) fun id _ =>
    .of_lift (provides.noun noun) fun subject read => ?_
  split_ifs with several
  · exact .of_lift (Reading.fair_noun_of_lt_nounCount several) fun object read' =>
      fair_relatePhrases ready id (ready.noun read) (ready.noun read')
  · exact fair_relatePhrases ready id (ready.noun read) (ready.noun read)

theorem fair_law (provides : s.reading.Provides [.noun, .verb]) (against : Verb → Bool)
    (contradiction : String → Contradiction) (set : Verb → Verb) :
    Fair (s.law against contradiction set) := by
  refine (fair_signature ready provides (by decide) (by decide)).bind fun verb =>
    .of_get fun world => ?_
  dsimp only
  split_ifs
  · exact .bind (.of_contradict _) fun _ => .of_modify _
  · exact .of_modify _

theorem fair_symmetry (provides : s.reading.Provides [.noun, .verb]) : Fair s.symmetry :=
  (fair_signature ready provides (by decide) (by decide)).bind fun _ => .of_modify _

omit ready in
theorem fair_bound (verb : Id .verb) (low high : Option Nat) : Fair (s.bound verb low high) := by
  unfold bound
  cases low <;> cases high
  case some.some low high => exact .of_lift (fair_checkBounds low high) fun _ _ => .of_modify _
  all_goals exact .of_modify _

omit ready in
theorem fair_modalBound {demands : List Gap} (provides : s.reading.Provides demands)
    (choice : 0 < demands.count .choice) : Result.Fair s.modalBound :=
  (provides.choice choice).bind fun _ _ => .ok _

theorem fair_relateExactlyOne (provides : s.reading.Provides [.noun, .choice, .verb]) :
    Fair s.relateExactlyOne :=
  (fair_signature ready provides (by decide) (by decide)).bind fun verb =>
    .of_lift (fair_modalBound provides (by decide)) fun low _ => fair_bound verb low (some 1)

theorem fair_relateUpTo (provides : s.reading.Provides [.noun, .choice, .verb, .count]) :
    Fair s.relateUpTo :=
  (fair_signature ready provides (by decide) (by decide)).bind fun verb =>
    .of_lift (fair_modalBound provides (by decide)) fun low _ =>
      .of_lift (provides.count (by decide)) fun high _ => fair_bound verb low (some high)

theorem fair_relateAtLeast (provides : s.reading.Provides [.noun, .verb, .count]) :
    Fair s.relateAtLeast :=
  (fair_signature ready provides (by decide) (by decide)).bind fun verb =>
    .of_lift (provides.count (by decide)) fun low _ => fair_bound verb (some low) none

theorem fair_relateBetween (provides : s.reading.Provides [.noun, .verb, .count, .count]) :
    Fair s.relateBetween :=
  (fair_signature ready provides (by decide) (by decide)).bind fun verb =>
    .of_lift (provides.count (by decide)) fun low _ =>
      .of_lift (provides.count (by decide)) fun high _ => fair_bound verb (some low) (some high)

theorem fair_relate (provides : s.reading.Provides [.noun, .choice, .verb]) : Fair s.relate := by
  refine (fair_signature ready provides (by decide) (by decide)).bind fun verb =>
    .of_lift (fair_modalBound provides (by decide)) fun low _ => .of_get fun world => ?_
  split_ifs
  · exact fair_bound verb low none
  · exact .of_pure ()

/-! ## Declarations about properties and parts -/

theorem fair_range (provides : s.reading.Provides [.noun, .text, .count, .count]) :
    Fair s.range :=
  .of_lift (ready.kindAt provides (by decide)) fun _ _ =>
    .of_lift (provides.count (by decide)) fun low _ =>
      .of_lift (provides.count (by decide)) fun high _ =>
        .of_lift (fair_checkBounds low high) fun _ _ =>
          .of_lift (provides.text (by decide)) fun _ _ => .of_modify _

/-- A menu that cannot be had is refused for its file. -/
theorem fair_menuProperty (provides : s.reading.Provides [.noun, .text, .text]) :
    Fair s.menuProperty := by
  refine .of_lift (ready.kindAt provides (by decide)) fun kind _ =>
    .of_lift (provides.text (by decide)) fun source _ => ?_
  have offered : Result.Fair ((s.menu (untokenize source)).mapError Error.resource) := by
    cases s.menu (untokenize source) with
    | ok values => exact .ok _
    | error error => exact nofun
  refine .of_lift offered fun values _ => ?_
  have give : Fair (do
      let name ← s.reading.text 0
      modify fun world =>
        (world.addProperty kind name (.menu (untokenize source) values [])).2 : Edit Unit) :=
    .of_lift (provides.text (by decide)) fun _ _ => .of_modify _
  dsimp only
  split_ifs
  · exact .of_lift (fair_objection _) fun _ _ => give
  · exact give

theorem fair_freeText (provides : s.reading.Provides [.noun, .text]) : Fair s.freeText :=
  .of_lift (ready.kindAt provides (by decide)) fun _ _ =>
    .of_lift (provides.text (by decide)) fun _ _ => .of_modify _

theorem fair_part (provides : s.reading.Provides [.noun, .noun, .text]) : Fair s.part := by
  refine .of_lift (ready.kindAt provides (by decide)) fun owner _ =>
    .of_lift (provides.noun (by decide)) fun phrase read =>
      .of_lift (ready.kind (ready.noun read)) fun kind _ =>
        .of_lift (ready.modifiers (ready.noun read)) fun modifiers _ =>
          .of_lift (provides.text (by decide)) fun name _ => .of_get fun world => ?_
  dsimp only
  split_ifs
  · exact .of_lift (fair_objection _) fun _ _ => .of_modify _
  · exact .of_modify _

omit ready in
theorem fair_individualValue (id : Id .individual) (name value : List Token) :
    Fair (individualValue id name value) := by
  refine .of_get fun world => ?_
  dsimp only
  split
  · exact .of_contradict _
  split
  · split_ifs
    · exact .bind (.of_contradict _) fun _ => .of_set _
    · exact .of_set _
  · exact .of_set _

theorem fair_kindValues (id : Id .kind) (made : s.MentionsMade phrase)
    (name value : List Token) : Fair (s.kindValues id phrase name value) := by
  refine .of_get fun world => ?_
  dsimp only
  split
  · exact .of_contradict _
  refine .of_lift (ready.modifiers made) fun modifiers _ => ?_
  split
  · split_ifs
    · exact .of_set _
    · exact .of_contradict _
  · exact .of_contradict _

theorem fair_propertyValue (provides : s.reading.Provides [.noun, .text, .text]) :
    Fair s.propertyValue := by
  refine .of_lift (provides.noun (by decide)) fun phrase read =>
    .of_lift (provides.text (by decide)) fun name _ =>
      .of_lift (provides.text (by decide)) fun value _ => ?_
  have made := ready.noun read
  refine .of_lift (ready.concept (made _ List.mem_cons_self)) fun found _ => ?_
  split
  · exact fair_individualValue _ name value
  · exact fair_kindValues ready _ made name value
  · exact .of_result (fair_objection _)

/-! ## Sentences -/

/-- What is declared by a sentence that provides it is no misuse. -/
theorem fair_declare (declaration : Declaration)
    (provides : s.reading.Provides declaration.demands) : Fair (s.declare declaration) := by
  cases declaration with
  | subkinds => exact fair_subkinds ready provides
  | subkind => exact fair_subkind ready provides
  | pluralForm => exact fair_kindForm ready provides .plural
  | singularForm => exact fair_kindForm ready provides .singular
  | membership => exact fair_membership ready provides
  | description | naming => exact fair_template ready provides _
  | silence => exact fair_silence ready provides
  | attributes => exact fair_attributes ready provides
  | choiceBetween => exact fair_choiceBetween ready provides
  | choiceUpTo => exact fair_choiceUpTo ready provides
  | possibility => exact fair_possibility ready provides
  | generality => exact fair_generality ready provides
  | wayOf => exact fair_wayOf ready provides
  | frequency => exact fair_frequency ready provides
  | implication => exact fair_implication ready provides
  | exclusion => exact fair_exclusion ready provides
  | symmetry => exact fair_symmetry ready provides
  | antisymmetry | irreflexivity | reflexivity => exact fair_law ready provides _ _ _
  | relateExactlyOne => exact fair_relateExactlyOne ready provides
  | relateUpTo => exact fair_relateUpTo ready provides
  | relateAtLeast => exact fair_relateAtLeast ready provides
  | relateBetween => exact fair_relateBetween ready provides
  | relate => exact fair_relate ready provides
  | range => exact fair_range ready provides
  | menu => exact fair_menuProperty ready provides
  | part => exact fair_part ready provides
  | freeText => exact fair_freeText ready provides
  | propertyValue => exact fair_propertyValue ready provides
  | shouldExist => exact fair_expectation ready provides true
  | shouldNotExist => exact fair_expectation ready provides false

end Declaring

end Statement

open Edit

/-- A coinage has both numbers of a kind's name. -/
theorem Coinage.fair_create (coinage : Coinage) : Fair coinage.create := by
  cases coinage with
  | kind singular plural => exact (fair_addKind _ _).bind fun _ => .of_pure _
  | adjective name => exact (fair_addAdjective name).bind fun _ => .of_pure _
  | verb base => exact (fair_addVerb base).bind fun _ => .of_pure _
  | individual name => exact (fair_addIndividual name).bind fun _ => .of_pure _

/-- All coinages have been made once none has failed. -/
theorem Coinage.length_of_mapM_create (coinages : List Coinage) :
    Leads (fun _ => True) (coinages.mapM Coinage.create) fun coined _ =>
      coined.length = coinages.length := by
  induction coinages with
  | nil => exact .of_pure [] fun _ _ => rfl
  | cons coinage rest ih =>
    rw [List.mapM_cons]
    have created : Leads (fun _ => True) coinage.create fun _ _ => True :=
      fun _ _ _ _ _ => trivial
    refine created.bind fun concept => ih.bind fun others => .of_pure _ fun _ same => ?_
    exact congrArg Nat.succ same

/-- All that a sentence does that provides what it declares is no misuse. -/
theorem Reading.fair_perform {reading : Reading} {declaration : Declaration}
    (provides : reading.Provides declaration.demands) (made : reading.IsMade) (line : String)
    (menu : String → Except ResourceError (List String)) :
    Fair (reading.perform line menu declaration) := by
  have created : Fair (reading.coinages.mapM Coinage.create) :=
    .mapM _ fun coinage _ => coinage.fair_create
  refine created.bind_of_leads (Coinage.length_of_mapM_create _) fun coined same => ?_
  exact (Statement.fair_declare ⟨same, made⟩ declaration provides).bind fun _ => .of_pure _

end Worldsmith
