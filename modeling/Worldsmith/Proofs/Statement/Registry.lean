import Worldsmith.Proofs.Sentence.Coinages
import Worldsmith.Proofs.Statement.Vocabulary
import Worldsmith.Proofs.World.Reachable
import Worldsmith.Proofs.World.Registry

/-!
# Fair sentences

A sentence is fair if all that it calls anything stands for nothing else. Fair sentences leave
every concept found by all that it is called. Others need not: a kind can be given the plural of
another one, and a new verb can have a gerund that is another verb's already.

## Main definitions

* `Reading.owner?` — what a name stands for in a sentence.
* `Reading.IsFair` — a sentence gives no name away.
* `World.FairlyReachable` — a world that fair sentences lead to.

## Main statements

* `World.FairlyReachable.resolves` — in such a world every concept is found by all that it is
  called.
-/

namespace Worldsmith

open World Edit

/-- All that a coinage will be called. -/
def Coinage.forms : Coinage → List (Name × WordForm)
  | .kind singular plural => numberForms singular plural
  | .adjective name => [(name, .either)]
  | .verb base => verbForms base ((thirdPerson base).toOption.getD base) base.gerund
  | .individual name => [(name, .singular)]

theorem Coinage.forms_ne_nil (coinage : Coinage) : coinage.forms ≠ [] := by
  cases coinage with
  | kind singular plural =>
    rw [forms, numberForms]
    split_ifs <;> simp
  | _ => simp [forms, verbForms]

/-- Whether two coinages will be called differently. -/
def Coinage.Apart (first second : Coinage) : Prop :=
  ∀ form ∈ first.forms, ∀ form' ∈ second.forms, form.1.keys ≠ form'.1.keys

instance : DecidableRel Coinage.Apart := fun first second => inferInstanceAs
  (Decidable (∀ form ∈ first.forms, ∀ form' ∈ second.forms, form.1.keys ≠ form'.1.keys))

/-- Whether all that coinages will be called stands for nothing yet. -/
def World.LeavesFree (world : World) (coinages : List Coinage) : Prop :=
  ∀ coinage ∈ coinages, ∀ form ∈ coinage.forms, world.find? form.1 = none

/-- What a name stands for in a sentence: something of the world, or what the sentence coins. -/
def Reading.owner? (reading : Reading) (world : World) (name : Name) : Option Mention :=
  match world.find? name with
  | some entry => some (.known entry.value)
  | none =>
    (reading.coinages.findIdx? fun coinage => coinage.forms.any fun form =>
      form.1.keys == name.keys).map .coined

/-- Whether a declaration is about what a kind is called. -/
def Declaration.renames : Declaration → Bool
  | .pluralForm | .singularForm => true
  | _ => false

/-- Whether a sentence gives no name to anything that stands for something else. Other coinages than
verbs are called by free names in any case. -/
structure Reading.IsFair (reading : Reading) (world : World) (declaration : Declaration) :
    Prop where
  verbs : ∀ base, .verb base ∈ reading.coinages → ∀ form ∈ (Coinage.verb base).forms,
    world.find? form.1 = none
  apart : reading.coinages.Pairwise Coinage.Apart
  own : declaration.renames = true → ∀ phrase name, reading.noun 0 = .ok phrase →
    reading.text 0 = .ok name → ∀ mention, reading.owner? world name = some mention →
      mention = phrase.head

variable {base world later : World} {coinage : Coinage} {coinages : List Coinage}
  {coined : List Concept} {reading : Reading} {line : String} {declaration : Declaration}
  {menu : String → Except ResourceError (List String)} {name : Name}

/-! ## Coining -/

theorem World.find?_eq_none_of_isCoinable (coinable : world.isCoinable name = true) :
    world.find? name = none := by
  rw [isCoinable, Bool.and_eq_true, Option.isNone_iff_eq_none] at coinable
  exact coinable.2

/-- A sentence coins no names that stand for anything, other than for verbs. -/
theorem Reading.IsFair.leavesFree {tokens : List Token} (fair : reading.IsFair world declaration)
    (fits : ∀ coinage ∈ reading.coinages, coinage.Fits world tokens) :
    world.LeavesFree reading.coinages := by
  intro coinage mem form among
  cases fits coinage mem with
  | kind _ _ _ singular plural _ _ _ free =>
    have each : ∀ n ∈ [singular, plural], world.find? n = none := by simpa using free
    exact each form.1 (fst_mem_of_mem_numberForms among)
  | adjective name _ coinable =>
    obtain rfl := List.mem_singleton.mp among
    exact find?_eq_none_of_isCoinable coinable
  | verb => exact fair.verbs _ mem form among
  | individual name _ coinable =>
    obtain rfl := List.mem_singleton.mp among
    exact find?_eq_none_of_isCoinable coinable

theorem Coinage.leads_create_coins (coinage : Coinage) : Leads (· = base) coinage.create
    fun concept world => base.vocabulary.Coins concept coinage.forms world.vocabulary := by
  cases coinage with
  | kind singular plural => exact .bind (leads_addKind_coins _ _) fun _ => .of_pure _ fun _ => id
  | adjective name => exact .bind (leads_addAdjective_coins _) fun _ => .of_pure _ fun _ => id
  | verb verb =>
    refine .bind (leads_addVerb_coins verb) fun _ => .of_pure _ fun _ => ?_
    rintro ⟨third, inflected, coins⟩
    rw [forms, inflected]
    exact coins
  | individual name => exact .bind (leads_addIndividual_coins _) fun _ => .of_pure _ fun _ => id

/-- Whether coinages have become concepts, and nothing else has changed about names. -/
structure World.Coined (base : World) (coinages : List Coinage) (coined : List Concept)
    (world : World) : Prop where
  resolves : world.vocabulary.Resolves
  kept : ∀ concept, base.vocabulary.forms concept ≠ [] →
    world.vocabulary.forms concept = base.vocabulary.forms concept
  called : List.Forall₂ (fun coinage concept => world.vocabulary.forms concept = coinage.forms)
    coinages coined
  rest : ∀ name : Name, (∀ coinage ∈ coinages, ∀ form ∈ coinage.forms, name.keys ≠ form.1.keys) →
    world.find? name = base.find? name

theorem Coinage.leads_mapM_create_coined (resolves : base.vocabulary.Resolves)
    (free : base.LeavesFree coinages) (apart : coinages.Pairwise Coinage.Apart) :
    Leads (· = base) (coinages.mapM Coinage.create) (base.Coined coinages) := by
  induction coinages generalizing base with
  | nil =>
    refine .of_pure [] ?_
    rintro _ rfl
    exact ⟨resolves, fun _ _ => rfl, .nil, fun _ _ => rfl⟩
  | cons coinage rest ih =>
    rw [List.mapM_cons]
    obtain ⟨freeHere, free⟩ := List.forall_mem_cons.mp free
    obtain ⟨apartHere, apart⟩ := List.pairwise_cons.mp apart
    refine .bind coinage.leads_create_coins fun concept => .of_each fun middle coins => ?_
    have same (name : Name) (other : ∀ form ∈ coinage.forms, name.keys ≠ form.1.keys) :
        middle.find? name = base.find? name :=
      coins.rest name (by simp [coins.new]) (coins.called ▸ other)
    have start : middle.vocabulary.Resolves := by
      refine resolves.of_renames coins.toRenames fun form mem found leads => ?_
      cases (freeHere form (coins.called ▸ mem)).symm.trans leads
    have free : middle.LeavesFree rest := by
      intro other mem form among
      refine (same form.1 fun form' among' => ?_).trans (free other mem form among)
      exact (apartHere other mem form' among' form among).symm
    refine .bind (ih start free apart) fun others => .of_pure _ fun world going => ?_
    have called : world.vocabulary.forms concept = coinage.forms :=
      (going.kept concept (coins.called ▸ coinage.forms_ne_nil)).trans coins.called
    refine ⟨going.resolves, fun other there => ?_, .cons called going.called, fun name apart => ?_⟩
    · have before : middle.vocabulary.forms other = base.vocabulary.forms other :=
        coins.others other fun same => there (same ▸ coins.new)
      exact (going.kept other (before ▸ there)).trans before
    · obtain ⟨here, others⟩ := List.forall_mem_cons.mp apart
      exact (going.rest name others).trans (same name here)

/-- What stands for something already goes on standing for it. -/
theorem World.Coined.find?_eq_some {entry : Entry Concept} (h : base.Coined coinages coined world)
    (free : base.LeavesFree coinages) (known : base.find? name = some entry) :
    world.find? name = some entry := by
  refine (h.rest name fun coinage mem form among same => ?_).trans known
  have known' : base.lexicon.get? form.1 = some entry :=
    (Lexicon.get?_eq_of_keys same.symm).trans known
  cases (free coinage mem form among).symm.trans known'

/-- What a name leads to once a sentence has coined is what it stands for in the sentence. -/
theorem World.Coined.exists_owner {found : Entry Concept}
    (h : base.Coined reading.coinages coined world) (free : base.LeavesFree reading.coinages)
    (leads : world.find? name = some found) :
    ∃ mention, reading.owner? base name = some mention ∧
      Statement.concept ⟨line, reading, coined, menu⟩ mention = .ok found.value := by
  cases known : base.find? name with
  | some entry =>
    obtain rfl : entry = found :=
      Option.some.inj ((h.find?_eq_some free known).symm.trans leads)
    exact ⟨.known entry.value, by rw [Reading.owner?, known], rfl⟩
  | none =>
    cases place : reading.coinages.findIdx? fun coinage => coinage.forms.any fun form =>
      form.1.keys == name.keys with
    | none =>
      have same : world.find? name = base.find? name := by
        refine h.rest name fun coinage mem form among same => ?_
        have other := List.findIdx?_eq_none_iff.mp place coinage mem
        simp only [List.any_eq_false, beq_iff_eq] at other
        exact other form among same.symm
      cases known.symm.trans (same.symm.trans leads)
    | some i =>
      obtain ⟨inside, claims, -⟩ := List.findIdx?_eq_some_iff_getElem.mp place
      obtain ⟨form, among, same⟩ := List.any_eq_true.mp claims
      have inside' : i < coined.length := h.called.length_eq ▸ inside
      have called : world.vocabulary.forms coined[i] = reading.coinages[i].forms :=
        h.called.get inside inside'
      have value := h.resolves.value_eq (called ▸ among) (beq_iff_eq.mp same).symm leads
      refine ⟨.coined i, by rw [Reading.owner?, known, place]; rfl, ?_⟩
      rw [Statement.concept, List.getElem?_eq_getElem inside', value]

/-! ## Sentences -/

/-- Once a fair sentence has coined, what it calls a kind leads to nothing else. -/
theorem Reading.IsFair.value_eq {id : Id .kind} {found : Entry Concept}
    (fair : reading.IsFair base declaration) (free : base.LeavesFree reading.coinages)
    (h : base.Coined reading.coinages coined world) (renames : declaration.renames = true)
    (about : Statement.kindAt ⟨line, reading, coined, menu⟩ 0 = .ok id)
    (text : reading.text 0 = .ok name) (leads : world.find? name = some found) :
    found.value = .kind id := by
  obtain ⟨phrase, noun, about⟩ := exists_of_bind_eq_ok about
  obtain ⟨concept, stands, about⟩ := exists_of_bind_eq_ok about
  obtain ⟨mention, owner, value⟩ := h.exists_owner free leads
  rw [fair.own renames phrase name noun text mention owner, stands] at value
  split at about
  · cases about
    exact (Except.ok.inj value).symm
  · cases about

/-- What is declared once a fair sentence has coined leaves all concepts found. -/
theorem Reading.IsFair.leads_declare (fair : reading.IsFair base declaration)
    (free : base.LeavesFree reading.coinages) (h : base.Coined reading.coinages coined world)
    (isIn : Statement.IsIn world ⟨line, reading, coined, menu⟩) :
    Leads (· = world) (Statement.declare ⟨line, reading, coined, menu⟩ declaration)
      fun _ later => later.vocabulary.Resolves := by
  have renamed (number : GrammaticalNumber) (renames : declaration.renames = true) :
      Leads (· = world) (Statement.kindForm ⟨line, reading, coined, menu⟩ number)
        fun _ later => later.vocabulary.Resolves :=
    .of_lift fun id about => .of_lift fun name text =>
      leads_setKindForm_resolves h.resolves (isIn.kindAt about)
        (fun found leads => fair.value_eq free h renames about text leads) number
  by_cases plural : declaration = .pluralForm
  · subst plural
    exact renamed .plural rfl
  by_cases singular : declaration = .singularForm
  · subst singular
    exact renamed .singular rfl
  have words : KeepsWords world.vocabulary (Statement.declare ⟨line, reading, coined, menu⟩
      declaration) := Statement.keepsWords_declare plural singular
  exact words.weaken (fun _ same => same ▸ rfl) fun _ later same => same ▸ h.resolves

/-- What a fair sentence does to a world leaves all concepts found. -/
theorem Reading.IsFair.leads_perform (fair : reading.IsFair base declaration)
    (free : base.LeavesFree reading.coinages) (start : base.Evolves base)
    (resolves : base.vocabulary.Resolves) (isIn : reading.IsIn base) (line : String)
    (menu : String → Except ResourceError (List String)) :
    Leads (· = base) (reading.perform line menu declaration)
      fun _ later => later.vocabulary.Resolves := by
  have held : Leads (· = base) (reading.coinages.mapM Coinage.create) fun coined world =>
      base.Evolves world ∧ ∀ concept ∈ coined, world.Holds concept :=
    (Coinage.leads_mapM_create reading.coinages).weaken (fun _ same => same ▸ start) fun _ _ => id
  have coins := (Coinage.leads_mapM_create_coined resolves free fair.apart).and held
  refine .bind coins fun coined => .of_each fun world ⟨h, evolves, made⟩ => ?_
  have about : Statement.IsIn world ⟨line, reading, coined, menu⟩ :=
    ⟨isIn.mono fun _ => evolves.grows.holds, made⟩
  exact .bind (fair.leads_declare free h about) fun _ => .of_pure _ fun _ => id

namespace World

/-- Whether a world is what fair sentences lead to, beginning with the empty world. -/
inductive FairlyReachable : World → Prop
  | empty : FairlyReachable empty
  | declare (world later : World) (line : String) (reading : Reading)
      (menu : String → Except ResourceError (List String)) (declaration : Declaration)
      (kinds : List (Id .kind)) (before : FairlyReachable world)
      (understood : world.understand line = .ok reading)
      (declares : reading.pattern.action = .declare declaration)
      (fair : reading.IsFair world declaration)
      (performed : (reading.perform line menu declaration).perform world = (.ok kinds, later)) :
      FairlyReachable later

namespace FairlyReachable

theorem reachable (h : world.FairlyReachable) : world.Reachable := by
  induction h with
  | empty => exact .empty
  | declare _ _ _ _ _ _ _ _ understood declares _ performed before =>
    exact .declare _ _ _ _ _ _ _ before understood declares performed

/-- In a world that fair sentences lead to every concept is found by all that it is called. -/
theorem resolves (h : world.FairlyReachable) : world.vocabulary.Resolves := by
  induction h with
  | empty => exact Vocabulary.resolves_empty
  | declare world later line _ menu _ _ before understood _ fair performed resolves =>
    have evolves := before.reachable.evolves
    have isIn := isIn_of_understand evolves.sound.lexicon understood
    obtain ⟨tokens, -, fits, -⟩ := exists_of_understand understood
    have free := fair.leavesFree fits
    exact fair.leads_perform free evolves.refl resolves isIn line menu world rfl _ later performed

theorem understand_cat : ((World.empty.understand "a cat is a kind of animal").toOption.map
    fun reading => (reading.coinages, reading.pattern.action)) =
      some ([.kind [.word "cat"] [.word "cats"], .kind [.word "animal"] [.word "animals"]],
        .declare .subkind) ∧
    ((World.empty.tell? (fun _ => .ok []) "a cat is a kind of animal").map fun later =>
      later.kinds.size) = some 2 := by
  decide +kernel

/-- A sentence that coins two kinds is fair to an empty world. -/
theorem resolves_cat : ∃ world : World,
    world.FairlyReachable ∧ world.kinds.size = 2 ∧ world.vocabulary.Resolves := by
  obtain ⟨read, told⟩ := understand_cat
  cases understood : World.empty.understand "a cat is a kind of animal" with
  | error error =>
    rw [understood] at read
    cases read
  | ok reading =>
    rw [understood] at read
    obtain ⟨coinages, declares⟩ := Prod.mk.inj (Option.some.inj read)
    have fair : reading.IsFair World.empty .subkind :=
      ⟨by simp [coinages], coinages ▸ by decide +kernel, fun renames => by cases renames⟩
    simp only [tell?, understood, declares] at told
    split at told
    · rename_i kinds later performed
      have reached : later.FairlyReachable :=
        .declare _ _ _ reading _ _ _ .empty understood declares fair performed
      exact ⟨later, reached, Option.some.inj told, reached.resolves⟩
    · cases told

end FairlyReachable

end World

end Worldsmith
