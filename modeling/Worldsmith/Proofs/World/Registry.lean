import Worldsmith.Proofs.Language.Lexicon
import Worldsmith.Proofs.World.Growth
import Worldsmith.Proofs.World.Vocabulary

/-!
# Whose names are whose

Concepts are found by all that they are called, as long as none is given a name that leads to
another one. The lexicon does not see to that: of two concepts of one sort the later takes the name.

## Main definitions

* `Vocabulary.forms` — all that a concept is called.
* `Vocabulary.Resolves` — every concept is found by all that it is called.
* `Vocabulary.Renames` — one concept is called something else, and is found by it.

## Main statements

* `Vocabulary.Resolves.of_renames` — what is given a name that leads to nothing else leaves all
  concepts found.
* `Vocabulary.Resolves.eq_of_keys` — where concepts are found, no two of them share a name.
* `Vocabulary.Resolves.get?_eq` — a name that is one form of a concept leads to that form.
* `World.find?_kind`, `World.find?_adjective`, `World.find?_individual`, `World.exists_find?_verb` —
  so each name of a concept of the world leads to that concept.
-/

namespace Worldsmith

/-- Both numbers of what a kind is called, which may be one form. -/
def numberForms (singular plural : Name) : List (Name × WordForm) :=
  if singular.same plural then [(singular, .either), (plural, .either)]
  else [(singular, .singular), (plural, .plural)]

def verbForms (base thirdPerson gerund : Name) : List (Name × WordForm) :=
  [(base, .plural), (thirdPerson, .singular), (gerund, .gerund)]

theorem index_ne {category : Category} {a b : Id category} (apart : a ≠ b) :
    a.index ≠ b.index := by
  intro same
  cases a
  cases b
  exact apart (congrArg Id.mk same)

theorem fst_mem_of_mem_numberForms {singular plural : Name} {form : Name × WordForm}
    (mem : form ∈ numberForms singular plural) : form.1 ∈ [singular, plural] := by
  have names : (numberForms singular plural).map Prod.fst = [singular, plural] := by
    rw [numberForms]
    split_ifs <;> rfl
  exact names ▸ List.mem_map_of_mem mem

namespace Vocabulary

variable {words later : Vocabulary} {concept other : Concept}
  {names bound : List (Name × WordForm)}

/-- All that a concept is called. What is no concept of the world is not called anything. -/
def forms (words : Vocabulary) : Concept → List (Name × WordForm)
  | .kind id => (words.kinds[id.index]?.map fun (s, p) => numberForms s p).getD []
  | .adjective id => (words.adjectives[id.index]?.map fun name => [(name, .either)]).getD []
  | .verb id => (words.verbs[id.index]?.map fun (b, t, g) => verbForms b t g).getD []
  | .individual id => (words.individuals[id.index]?.map fun name => [(name, .singular)]).getD []

/-- Whether a concept is found by all that it is called. Where it has several forms of one
spelling, any of them may be found. -/
def Finds (words : Vocabulary) (concept : Concept) : Prop :=
  ∀ form ∈ words.forms concept, ∃ other ∈ words.forms concept,
    other.1.keys = form.1.keys ∧ words.lexicon.get? form.1 = some ⟨concept, other.2⟩

/-- Whether every concept is found by all that it is called. -/
def Resolves (words : Vocabulary) : Prop := ∀ concept, words.Finds concept

/-- Whether words have become others by calling one concept something. -/
structure Renames (words : Vocabulary) (concept : Concept) (later : Vocabulary) : Prop where
  others : ∀ other, other ≠ concept → later.forms other = words.forms other
  found : later.Finds concept
  rest : ∀ name : Name, (∀ form ∈ words.forms concept, name.keys ≠ form.1.keys) →
    (∀ form ∈ later.forms concept, name.keys ≠ form.1.keys) →
    later.lexicon.get? name = words.lexicon.get? name

/-- Whether words have become others by calling something new by some forms. -/
structure Coins (words : Vocabulary) (concept : Concept) (names : List (Name × WordForm))
    (later : Vocabulary) : Prop extends words.Renames concept later where
  new : words.forms concept = []
  called : later.forms concept = names

/-- Where concepts are found, what leads to one is no name of another. -/
theorem Resolves.eq_of_keys (resolves : words.Resolves) {a b : Concept}
    {form form' : Name × WordForm} (mem : form ∈ words.forms a) (mem' : form' ∈ words.forms b)
    (same : form.1.keys = form'.1.keys) : a = b := by
  obtain ⟨_, -, -, leads⟩ := resolves a form mem
  obtain ⟨_, -, -, leads'⟩ := resolves b form' mem'
  rw [Lexicon.get?_eq_of_keys same, leads'] at leads
  exact (congrArg Entry.value (Option.some.inj leads)).symm

/-- A name leads to the concept that is called so. -/
theorem Resolves.value_eq (resolves : words.Resolves) {form : Name × WordForm} {name : Name}
    {found : Entry Concept} (mem : form ∈ words.forms concept) (same : name.keys = form.1.keys)
    (leads : words.lexicon.get? name = some found) : found.value = concept := by
  obtain ⟨_, -, -, leads'⟩ := resolves concept form mem
  rw [Lexicon.get?_eq_of_keys same, leads'] at leads
  exact congrArg Entry.value (Option.some.inj leads).symm

/-- Where a concept has one form of some spelling, that is the form that is found. -/
theorem Resolves.get?_eq (resolves : words.Resolves) {form : Name × WordForm}
    (mem : form ∈ words.forms concept)
    (only : ∀ other ∈ words.forms concept, other.1.keys = form.1.keys → other.2 = form.2) :
    words.lexicon.get? form.1 = some ⟨concept, form.2⟩ := by
  obtain ⟨other, mem', same, leads⟩ := resolves concept form mem
  rw [leads, only other mem' same]

theorem resolves_empty : World.empty.vocabulary.Resolves := by
  intro concept form mem
  cases concept <;> simp [forms, World.vocabulary, World.empty] at mem

/-- Names that lead to nothing else can be given. -/
theorem Resolves.of_renames (resolves : words.Resolves) (renames : words.Renames concept later)
    (fair : ∀ form ∈ later.forms concept, ∀ found, words.lexicon.get? form.1 = some found →
      found.value = concept) : later.Resolves := by
  intro other
  by_cases same : other = concept
  · exact same ▸ renames.found
  rw [Finds, renames.others other same]
  intro form mem
  obtain ⟨form', mem', spelt, leads⟩ := resolves other form mem
  refine ⟨form', mem', spelt, (renames.rest form.1 ?_ ?_).trans leads⟩
  · exact fun taken among here => same (resolves.value_eq among here leads)
  · intro given among here
    refine same (fair given among ⟨other, form'.2⟩ ?_)
    exact (Lexicon.get?_eq_of_keys here.symm).trans leads

/-- Whether the forms that are bound are all that something is called, up to case. -/
structure Covers (bound names : List (Name × WordForm)) : Prop where
  only : bound ⊆ names
  all : ∀ form ∈ names, ∃ other ∈ bound, other.1.keys = form.1.keys

theorem covers_self (names : List (Name × WordForm)) : Covers names names :=
  ⟨List.Subset.refl _, fun form mem => ⟨form, mem, rfl⟩⟩

theorem Covers.of_perm {bound' : List (Name × WordForm)} (covers : Covers bound names)
    (perm : bound'.Perm bound) : Covers bound' names where
  only := fun _ mem => covers.only (perm.subset mem)
  all form mem := by
    obtain ⟨other, among, same⟩ := covers.all form mem
    exact ⟨other, perm.symm.subset among, same⟩

/-- The concept is found by what is bound to it last. -/
theorem Renames.of_bindAll {lexicon : Lexicon Concept}
    (others : ∀ other, other ≠ concept → later.forms other = words.forms other)
    (kept : ∀ name : Name, (∀ form ∈ words.forms concept, name.keys ≠ form.1.keys) →
      lexicon.get? name = words.lexicon.get? name)
    (binds : later.lexicon = lexicon.bindAll concept bound)
    (covers : Covers bound (later.forms concept)) : words.Renames concept later where
  others := others
  found form mem := by
    obtain ⟨other, among, same, leads⟩ := Lexicon.get?_bindAll_of_mem (covers.all form mem)
    exact ⟨other, covers.only among, same, binds ▸ leads⟩
  rest name apart apart' := by
    rw [binds, Lexicon.get?_bindAll_of_apart fun form mem => apart' form (covers.only mem)]
    exact kept name apart

theorem Coins.of_bindAll
    (others : ∀ other, other ≠ concept → later.forms other = words.forms other)
    (new : words.forms concept = []) (called : later.forms concept = names)
    (binds : later.lexicon = words.lexicon.bindAll concept bound) (covers : Covers bound names) :
    words.Coins concept names later where
  toRenames := .of_bindAll others (fun _ _ => rfl) binds (called ▸ covers)
  new := new
  called := called

/-! ## New concepts -/

/-- The forms of a kind that are bound: if both numbers are one form, one is enough. -/
def boundForms (singular plural : Name) : List (Name × WordForm) :=
  if singular.same plural then [(singular, .either)]
  else [(singular, .singular), (plural, .plural)]

/-- Where both numbers are one form, either of them is enough. -/
theorem covers_of_same {singular plural name : Name} (same : singular.same plural = true)
    (one : name = singular ∨ name = plural) :
    Covers [(name, .either)] (numberForms singular plural) := by
  have keys := Name.keys_eq_of_same same
  rw [numberForms, if_pos same]
  constructor <;> rcases one with rfl | rfl <;> simp [keys]

theorem covers_of_apart {singular plural : Name} (apart : ¬ singular.same plural = true) :
    Covers [(singular, .singular), (plural, .plural)] (numberForms singular plural) := by
  rw [numberForms, if_neg apart]
  exact covers_self _

theorem covers_boundForms (singular plural : Name) :
    Covers (boundForms singular plural) (numberForms singular plural) := by
  rw [boundForms]
  split_ifs with same
  · exact covers_of_same same (.inl rfl)
  · exact covers_of_apart same

theorem getElem?_push_of_ne {α : Type} {category : Category} {array : Array α} {a : α}
    {id : Id category} (apart : id ≠ ⟨array.size⟩) :
    (array.push a)[id.index]? = array[id.index]? := by
  simp [Array.getElem?_push, index_ne apart]

theorem coins_kind (words : Vocabulary) (singular plural : Name) :
    words.Coins (.kind ⟨words.kinds.size⟩) (numberForms singular plural)
      { words with
        lexicon := words.lexicon.bindAll (.kind ⟨words.kinds.size⟩) (boundForms singular plural)
        kinds := words.kinds.push (singular, plural) } := by
  refine .of_bindAll (fun other apart => ?_) (by simp [forms]) (by simp [forms]) rfl
    (covers_boundForms singular plural)
  cases other with
  | kind id =>
    have apart := fun same => apart (congrArg Concept.kind same)
    simp only [forms, getElem?_push_of_ne apart]
  | _ => rfl

theorem coins_adjective (words : Vocabulary) (name : Name) :
    words.Coins (.adjective ⟨words.adjectives.size⟩) [(name, .either)]
      { words with
        lexicon := words.lexicon.bindAll (.adjective ⟨words.adjectives.size⟩) [(name, .either)]
        adjectives := words.adjectives.push name } := by
  refine .of_bindAll (fun other apart => ?_) (by simp [forms]) (by simp [forms]) rfl
    (covers_self _)
  cases other with
  | adjective id =>
    have apart := fun same => apart (congrArg Concept.adjective same)
    simp only [forms, getElem?_push_of_ne apart]
  | _ => rfl

theorem coins_verb (words : Vocabulary) (base thirdPerson gerund : Name) :
    words.Coins (.verb ⟨words.verbs.size⟩) (verbForms base thirdPerson gerund)
      { words with
        lexicon := words.lexicon.bindAll (.verb ⟨words.verbs.size⟩)
          (verbForms base thirdPerson gerund)
        verbs := words.verbs.push (base, thirdPerson, gerund) } := by
  refine .of_bindAll (fun other apart => ?_) (by simp [forms]) (by simp [forms]) rfl
    (covers_self _)
  cases other with
  | verb id =>
    have apart := fun same => apart (congrArg Concept.verb same)
    simp only [forms, getElem?_push_of_ne apart]
  | _ => rfl

theorem coins_individual (words : Vocabulary) (name : Name) :
    words.Coins (.individual ⟨words.individuals.size⟩) [(name, .singular)]
      { words with
        lexicon := words.lexicon.bindAll (.individual ⟨words.individuals.size⟩) [(name, .singular)]
        individuals := words.individuals.push name } := by
  refine .of_bindAll (fun other apart => ?_) (by simp [forms]) (by simp [forms]) rfl
    (covers_self _)
  cases other with
  | individual id =>
    have apart := fun same => apart (congrArg Concept.individual same)
    simp only [forms, getElem?_push_of_ne apart]
  | _ => rfl

end Vocabulary

/-! ## Kinds under other names -/

namespace World

variable {world : World} {id : Id .kind} {old : Name} {bound : List (Name × WordForm)}
  {f : Kind → Kind}

theorem forms_kind (held : world.Holds (.kind id)) : world.vocabulary.forms (.kind id) =
    numberForms (world.kind id).singular (world.kind id).plural := by
  have held : id.index < world.kinds.size := held
  simp [Vocabulary.forms, vocabulary, kind, Kind.names, held]

/-- A kind is found by both numbers of its name. -/
theorem find?_kind (resolves : world.vocabulary.Resolves) (held : world.Holds (.kind id))
    (spelt : (world.kind id).singular.keys = (world.kind id).plural.keys →
      (world.kind id).singular.same (world.kind id).plural = true) :
    world.find? (world.kind id).singular = some ⟨.kind id,
        if (world.kind id).singular.same (world.kind id).plural then .either else .singular⟩ ∧
      world.find? (world.kind id).plural = some ⟨.kind id,
        if (world.kind id).singular.same (world.kind id).plural then .either else .plural⟩ := by
  have leads (name : Name) (form : WordForm)
      (mem : (name, form) ∈ world.vocabulary.forms (.kind id)) := resolves.get?_eq mem
  rw [forms_kind held, numberForms] at leads
  split_ifs at leads ⊢ with same
  · exact ⟨leads _ .either (by simp) (by simp), leads _ .either (by simp) (by simp)⟩
  · have apart := fun keys => same (spelt keys)
    refine ⟨leads _ .singular (by simp) ?_, leads _ .plural (by simp) ?_⟩
    · simpa using fun keys => apart keys.symm
    · simpa using apart

theorem find?_adjective {id : Id .adjective} (resolves : world.vocabulary.Resolves)
    (held : world.Holds (.adjective id)) :
    world.find? (world.adjective id).name = some ⟨.adjective id, .either⟩ := by
  have held : id.index < world.adjectives.size := held
  have forms : world.vocabulary.forms (.adjective id) = [((world.adjective id).name, .either)] := by
    simp [Vocabulary.forms, vocabulary, adjective, held]
  exact resolves.get?_eq (forms ▸ List.mem_singleton_self _) (by simp [forms])

theorem find?_individual {id : Id .individual} (resolves : world.vocabulary.Resolves)
    (held : world.Holds (.individual id)) :
    world.find? (world.individual id).name = some ⟨.individual id, .singular⟩ := by
  have held : id.index < world.individuals.size := held
  have forms : world.vocabulary.forms (.individual id) =
      [((world.individual id).name, .singular)] := by
    simp [Vocabulary.forms, vocabulary, individual, held]
  exact resolves.get?_eq (forms ▸ List.mem_singleton_self _) (by simp [forms])

/-- A verb is found by each of its forms, of which several may have one spelling. -/
theorem exists_find?_verb {id : Id .verb} (resolves : world.vocabulary.Resolves)
    (held : world.Holds (.verb id)) :
    ∀ name ∈ [(world.verb id).base, (world.verb id).thirdPerson, (world.verb id).gerund],
      ∃ form, world.find? name = some ⟨.verb id, form⟩ := by
  have held : id.index < world.verbs.size := held
  have forms : world.vocabulary.forms (.verb id) = verbForms (world.verb id).base
      (world.verb id).thirdPerson (world.verb id).gerund := by
    simp [Vocabulary.forms, vocabulary, verb, Verb.names, held]
  have leads (form : Name × WordForm) (mem : form ∈ world.vocabulary.forms (.verb id)) :
      ∃ found, world.find? form.1 = some ⟨.verb id, found⟩ := by
    obtain ⟨other, -, -, leads⟩ := resolves _ form mem
    exact ⟨other.2, leads⟩
  simpa [forms, verbForms] using leads

/-- Each number of a kind's name is something that it is called. -/
theorem exists_mem_forms_of_own (held : world.Holds (.kind id))
    (own : old ∈ [(world.kind id).singular, (world.kind id).plural]) :
    ∃ form ∈ world.vocabulary.forms (.kind id), form.1 = old := by
  rw [forms_kind held, numberForms]
  split_ifs <;> simpa [eq_comm] using own

theorem forms_renamed {lexicon : Lexicon Concept} (held : world.Holds (.kind id)) :
    (modifyKind { world with lexicon := lexicon } id f).vocabulary.forms (.kind id) =
      numberForms (f (world.kind id)).singular (f (world.kind id)).plural := by
  have held : Holds { world with lexicon := lexicon } (.kind id) := held
  rw [forms_kind (holds_modifyKind.mpr held), kind_modifyKind, if_pos ⟨rfl, held⟩]
  rfl

theorem renames_modifyKind (held : world.Holds (.kind id))
    (own : old ∈ [(world.kind id).singular, (world.kind id).plural])
    (covers : Vocabulary.Covers bound
      (numberForms (f (world.kind id)).singular (f (world.kind id)).plural)) :
    world.vocabulary.Renames (.kind id) (modifyKind
      { world with lexicon := (world.lexicon.store none old).bindAll (.kind id) bound } id
        f).vocabulary := by
  refine .of_bindAll (fun other apart => ?_) (fun name apart => ?_) rfl ?_
  · cases other with
    | kind other =>
      have apart : id ≠ other := fun same => apart (congrArg Concept.kind same.symm)
      simp [Vocabulary.forms, vocabulary, modifyKind, Array.getElem?_modify, index_ne apart]
    | _ => rfl
  · obtain ⟨form, mem, rfl⟩ := exists_mem_forms_of_own held own
    exact (Lexicon.get?_store _ _ _ _).trans (if_neg (apart form mem))
  · exact forms_renamed held ▸ covers

/-- A kind can be called by any name that leads to nothing else. -/
theorem resolves_modifyKind {name : Name} (f : Kind → Kind) (resolves : world.vocabulary.Resolves)
    (held : world.Holds (.kind id))
    (fair : ∀ found, world.find? name = some found → found.value = .kind id)
    (own : old ∈ [(world.kind id).singular, (world.kind id).plural])
    (covers : Vocabulary.Covers bound
      (numberForms (f (world.kind id)).singular (f (world.kind id)).plural))
    (given : ∀ n ∈ [(f (world.kind id)).singular, (f (world.kind id)).plural],
      n = name ∨ n ∈ [(world.kind id).singular, (world.kind id).plural]) :
    (modifyKind
      { world with lexicon := (world.lexicon.store none old).bindAll (.kind id) bound } id
        f).vocabulary.Resolves := by
  refine resolves.of_renames (renames_modifyKind held own covers) fun form mem found leads => ?_
  rw [forms_renamed held] at mem
  rcases given form.1 (fst_mem_of_mem_numberForms mem) with same | own
  · exact fair found (same ▸ leads)
  · obtain ⟨form', mem', same⟩ := exists_mem_forms_of_own held own
    exact resolves.value_eq mem' (congrArg Name.keys same.symm) leads

end World

namespace Edit

open World

variable {world : World} {concept : Concept} {form : WordForm} {name : Name}

theorem leads_register_eq (name : Name) (concept : Concept) (form : WordForm) :
    Leads (· = world) (register name concept form) fun _ later =>
      later = { world with lexicon := world.lexicon.store (some ⟨concept, form⟩) name } :=
  leads_register fun _ same => same ▸ rfl

theorem leads_modify_eq {f : World → World} :
    Leads (· = world) (modify f : Edit PUnit) fun _ later => later = f world :=
  .of_modify fun _ same => same ▸ rfl

theorem leads_addKind_coins (singular plural : Name) :
    Leads (· = world) (addKind (some singular) (some plural)) fun id later =>
      world.vocabulary.Coins (.kind id) (numberForms singular plural) later.vocabulary := by
  simp only [addKind, bothForms, pure_bind]
  have coins := world.vocabulary.coins_kind singular plural
  refine .of_get ?_
  rintro _ rfl
  split_ifs with same
  · refine .bind (leads_register_eq _ _ _) fun _ => .bind leads_modify_eq fun _ => .of_pure _ ?_
    rintro _ rfl
    simpa [vocabulary, Kind.names, Kind.named, Vocabulary.boundForms, same] using coins
  · refine .bind (leads_register_eq _ _ _) fun _ => .bind (leads_register_eq _ _ _) fun _ =>
      .bind leads_modify_eq fun _ => .of_pure _ ?_
    rintro _ rfl
    simpa [vocabulary, Kind.names, Kind.named, Vocabulary.boundForms, same] using coins

theorem leads_addAdjective_coins (name : Name) :
    Leads (· = world) (addAdjective name) fun id later =>
      world.vocabulary.Coins (.adjective id) [(name, .either)] later.vocabulary := by
  have coins := world.vocabulary.coins_adjective name
  refine .of_get ?_
  rintro _ rfl
  refine .bind (leads_register_eq _ _ _) fun _ => .bind leads_modify_eq fun _ => .of_pure _ ?_
  rintro _ rfl
  simpa [vocabulary] using coins

theorem leads_addVerb_coins (base : Name) :
    Leads (· = world) (addVerb base) fun id later => ∃ third, thirdPerson base = .ok third ∧
      world.vocabulary.Coins (.verb id) (verbForms base third base.gerund) later.vocabulary := by
  cases inflected : thirdPerson base with
  | error error =>
    have none : Leads (· = world) (grammatical (.error error : Except GrammarError Name))
        fun _ _ => False := .of_throw _
    rw [addVerb, inflected]
    exact .bind none fun _ => .of_each fun _ h => h.elim
  | ok third =>
    have coins := world.vocabulary.coins_verb base third base.gerund
    simp only [addVerb, inflected, grammatical, pure_bind]
    refine .of_get ?_
    rintro _ rfl
    refine .bind (leads_register_eq _ _ _) fun _ => .bind (leads_register_eq _ _ _) fun _ =>
      .bind (leads_register_eq _ _ _) fun _ => .bind leads_modify_eq fun _ => .of_pure _ ?_
    rintro _ rfl
    refine ⟨third, rfl, ?_⟩
    simpa [vocabulary, Verb.names, Verb.named, verbForms] using coins

theorem leads_addIndividual_coins (name : Name) :
    Leads (· = world) (addIndividual name) fun id later =>
      world.vocabulary.Coins (.individual id) [(name, .singular)] later.vocabulary := by
  have coins := world.vocabulary.coins_individual name
  refine .of_get ?_
  rintro _ rfl
  refine .bind (leads_register_eq _ _ _) fun _ => .bind leads_modify_eq fun _ => .of_pure _ ?_
  rintro _ rfl
  simpa [vocabulary] using coins

theorem leads_setKindForm_resolves {id : Id .kind} (resolves : world.vocabulary.Resolves)
    (held : world.Holds (.kind id))
    (fair : ∀ found, world.find? name = some found → found.value = .kind id)
    (number : GrammaticalNumber) :
    Leads (· = world) (setKindForm id name number) fun _ later => later.vocabulary.Resolves := by
  refine .of_get ?_
  rintro _ rfl
  cases number with
  | plural =>
    let renamed (kind : Kind) : Kind := { kind with plural := name }
    refine .bind leads_modify_eq fun _ => ?_
    dsimp only
    split_ifs with same
    · refine .bind (leads_register_eq _ _ _) fun _ => .of_modify ?_
      rintro _ rfl
      have covers := Vocabulary.covers_of_same (Name.same_comm .. ▸ same) (.inr rfl)
      exact resolves_modifyKind renamed resolves held fair (by simp) covers (by simp [renamed])
    · refine .bind leads_modify_eq fun _ => .bind (leads_register_eq _ _ _) fun _ => .of_modify ?_
      rintro _ rfl
      have covers := Vocabulary.covers_of_apart (Name.same_comm .. ▸ same)
      exact resolves_modifyKind renamed resolves held fair (by simp) covers (by simp [renamed])
  | singular =>
    let renamed (kind : Kind) : Kind := { kind with singular := name }
    refine .bind leads_modify_eq fun _ => ?_
    dsimp only
    split_ifs with same
    · refine .bind (leads_register_eq _ _ _) fun _ => .of_modify ?_
      rintro _ rfl
      have covers := Vocabulary.covers_of_same same (.inl rfl)
      exact resolves_modifyKind renamed resolves held fair (by simp) covers (by simp [renamed])
    · refine .bind leads_modify_eq fun _ => .bind (leads_register_eq _ _ _) fun _ => .of_modify ?_
      rintro _ rfl
      have covers := (Vocabulary.covers_of_apart same).of_perm (.swap _ _ _)
      exact resolves_modifyKind renamed resolves held fair (by simp) covers (by simp [renamed])

end Edit

end Worldsmith
