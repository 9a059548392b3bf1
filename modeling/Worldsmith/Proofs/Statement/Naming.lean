import Worldsmith.Proofs.Statement.Vocabulary
import Worldsmith.Proofs.Statement.Declarations

/-!
# What kinds are called

Kinds get their names from sentences: a new kind is called what its sentence coins, and a kind that
is renamed is called what the sentence says.

## Main definitions

* `Reading.Names` — a sentence has a name for a kind.
* `World.Calls` — kinds are called what they were called before, or by one of some names.

## Main statements

* `Reading.leads_perform` — what kinds are called once a sentence has been carried out.
-/

namespace Worldsmith

/-- Whether a sentence has a name for a kind: it coins that name for one, or says it. -/
def Reading.Names (reading : Reading) (name : Name) : Prop :=
  (∃ plural, .kind name plural ∈ reading.coinages) ∨ .text name ∈ reading.constituents

namespace World

variable {base world later : World} {given : Name → Prop}

/-- Whether kinds are called what they were called in another world, or by one of the names that
are given. -/
structure Calls (base : World) (given : Name → Prop) (world : World) : Prop where
  size : base.kinds.size ≤ world.kinds.size
  name : ∀ id, world.kindName id = base.kindName id ∨
    ∃ name, given name ∧ world.kindName id = untokenize name

theorem calls_self (world : World) (given : Name → Prop) : world.Calls given world :=
  ⟨le_rfl, fun _ => .inl rfl⟩

namespace Calls

variable (h : base.Calls given world)
include h

theorem of_kinds_eq (same : later.kinds = world.kinds) : base.Calls given later where
  size := same ▸ h.size
  name id := by
    have kindName : later.kindName id = world.kindName id := by rw [World.kindName, kind, same]; rfl
    exact kindName ▸ h.name id

theorem of_vocabulary_eq (same : later.vocabulary = world.vocabulary) : base.Calls given later where
  size := by
    have size := congrArg (fun words => words.kinds.size) same
    simp only [vocabulary, Array.size_map] at size
    exact size ▸ h.size
  name id := kindName_eq_of_vocabulary same id ▸ h.name id

theorem push {singular : Name} (plural : Name) (gives : given singular) :
    base.Calls given { world with kinds := world.kinds.push (.named singular plural) } where
  size := by simpa using Nat.le_succ_of_le h.size
  name id := by
    simp only [kindName, kind, Array.getD_eq_getD_getElem?, Array.getElem?_push]
    split_ifs
    · exact .inr ⟨singular, gives, rfl⟩
    · simpa [kindName, kind, Array.getD_eq_getD_getElem?] using h.name id

theorem modifyKind (id : Id .kind) {f : Kind → Kind}
    (named : ∀ kind, (f kind).singular = kind.singular ∨ given (f kind).singular) :
    base.Calls given (world.modifyKind id f) where
  size := by simpa [World.modifyKind] using h.size
  name other := by
    simp only [kindName, kind, World.modifyKind, getD_modify]
    split_ifs
    · rcases named (world.kind other) with same | gives
      · have before := h.name other
        rw [kindName, ← same] at before
        exact before
      · exact .inr ⟨_, gives, rfl⟩
    · exact h.name other

end Calls

end World

namespace Edit

open World

variable {base : World} {given : Name → Prop} {name : Name}

theorem preserves_register (name : Name) (concept : Concept) (form : WordForm) :
    Preserves (base.Calls given) (register name concept form) :=
  leads_register fun _ h => h.of_kinds_eq rfl

theorem preserves_bind (name : Name) (entry : Option (Entry Concept)) :
    Preserves (base.Calls given) (Edit.bind name entry) :=
  .of_modify fun _ h => h.of_kinds_eq rfl

theorem preserves_setKindForm (id : Id .kind) (gives : given name) (number : GrammaticalNumber) :
    Preserves (base.Calls given) (setKindForm id name number) := by
  refine .of_get fun world => ?_
  cases number
  all_goals
    refine (preserves_bind _ _).bind fun _ => ?_
    dsimp only
    split_ifs
    · refine (preserves_register _ _ _).bind fun _ => .of_modify fun world h => h.modifyKind id ?_
      intro kind
      simp [gives]
    · refine (preserves_bind _ _).bind fun _ => (preserves_register _ _ _).bind fun _ =>
        .of_modify fun world h => h.modifyKind id ?_
      intro kind
      simp [gives]

/-- A new kind comes after all others, and is called as it is said. -/
theorem leads_addKind_of_forms {singular : Name} (plural : Name) (gives : given singular) :
    Leads (base.Calls given) (addKind (some singular) (some plural))
      fun id world => base.Calls given world ∧ base.kinds.size ≤ id.index := by
  simp only [addKind, bothForms, pure_bind]
  refine .of_get fun world start => ?_
  have made : Leads (base.Calls given)
      (do
        modify fun world => { world with kinds := world.kinds.push (.named singular plural) }
        return (⟨world.kinds.size⟩ : Id .kind) : Edit (Id .kind))
      fun id later => base.Calls given later ∧ base.kinds.size ≤ id.index :=
    .bind (Preserves.of_modify fun _ h => h.push plural gives) fun _ =>
      .of_pure _ fun _ h => ⟨h, start.size⟩
  split_ifs
  · refine .weaken (.bind (preserves_register _ _ _) fun _ => made) ?_ fun _ _ => id
    exact fun _ same => same ▸ start
  · refine .weaken (.bind (preserves_register _ _ _) fun _ =>
      .bind (preserves_register _ _ _) fun _ => made) ?_ fun _ _ => id
    exact fun _ same => same ▸ start

theorem preserves_addAdjective (name : Name) : Preserves (base.Calls given) (addAdjective name) :=
  .of_get fun _ => (preserves_register _ _ _).bind fun _ =>
    Preserves.bind (.of_modify fun _ h => h.of_kinds_eq rfl) fun _ => .of_pure _

theorem preserves_addVerb (name : Name) : Preserves (base.Calls given) (addVerb name) :=
  .bind (.of_grammatical _) fun _ => .of_get fun _ => (preserves_register _ _ _).bind fun _ =>
    (preserves_register _ _ _).bind fun _ => (preserves_register _ _ _).bind fun _ =>
      Preserves.bind (.of_modify fun _ h => h.of_kinds_eq rfl) fun _ => .of_pure _

theorem preserves_addIndividual (name : Name) :
    Preserves (base.Calls given) (addIndividual name) :=
  .of_get fun _ => (preserves_register _ _ _).bind fun _ =>
    Preserves.bind (.of_modify fun _ h => h.of_kinds_eq rfl) fun _ => .of_pure _

end Edit

open World Edit

variable {base : World} {given : Name → Prop}

/-- Whether the kinds among some concepts have come after those of a world. -/
def Concept.ComesAfter (base : World) : Concept → Prop
  | .kind id => base.kinds.size ≤ id.index
  | _ => True

theorem Coinage.leads_create_of_given {coinage : Coinage}
    (gives : ∀ singular plural, coinage = .kind singular plural → given singular) :
    Leads (base.Calls given) coinage.create
      fun concept world => base.Calls given world ∧ concept.ComesAfter base := by
  cases coinage with
  | kind singular plural =>
    exact .bind (leads_addKind_of_forms plural (gives _ _ rfl)) fun _ => .of_pure _ fun _ => id
  | adjective name =>
    exact .bind (preserves_addAdjective name) fun _ => .of_pure _ fun _ h => ⟨h, trivial⟩
  | verb base => exact .bind (preserves_addVerb base) fun _ => .of_pure _ fun _ h => ⟨h, trivial⟩
  | individual name =>
    exact .bind (preserves_addIndividual name) fun _ => .of_pure _ fun _ h => ⟨h, trivial⟩

theorem Coinage.leads_mapM_create_of_given {coinages : List Coinage}
    (gives : ∀ singular plural, .kind singular plural ∈ coinages → given singular) :
    Leads (base.Calls given) (coinages.mapM Coinage.create)
      fun coined world => base.Calls given world ∧ ∀ concept ∈ coined, concept.ComesAfter base := by
  induction coinages with
  | nil => exact .of_pure [] fun _ h => ⟨h, by simp⟩
  | cons coinage rest ih =>
    rw [List.mapM_cons]
    have first : Leads (base.Calls given) coinage.create _ :=
      coinage.leads_create_of_given fun s p same => gives s p (by simp [same])
    refine .bind first fun concept => .of_each fun world ⟨start, after⟩ => ?_
    have going : Leads (· = world) (rest.mapM Coinage.create) _ :=
      (ih fun s p mem => gives s p (List.mem_cons_of_mem _ mem)).weaken
        (fun _ same => same ▸ start) fun _ _ => id
    exact .bind going fun others => .of_pure _ fun later ⟨h, afters⟩ =>
      ⟨h, List.forall_mem_cons.mpr ⟨after, afters⟩⟩

theorem Statement.preserves_kindForm {s : Statement} (number : GrammaticalNumber)
    (gives : ∀ name, .text name ∈ s.reading.constituents → given name) :
    Preserves (base.Calls given) (s.kindForm number) := by
  refine .of_lift fun kind _ => .of_lift fun text said => preserves_setKindForm kind ?_ number
  obtain ⟨constituent, mem, select⟩ := IsIn.exists_of_nth said
  cases constituent <;> cases select
  exact gives _ mem

theorem Statement.preserves_declare {s : Statement} (declaration : Declaration)
    (gives : ∀ name, .text name ∈ s.reading.constituents → given name) :
    Preserves (base.Calls given) (s.declare declaration) := by
  by_cases plural : declaration = .pluralForm
  · exact plural ▸ preserves_kindForm .plural gives
  by_cases singular : declaration = .singularForm
  · exact singular ▸ preserves_kindForm .singular gives
  intro world start _ later made
  have words : KeepsWords world.vocabulary (s.declare declaration) :=
    keepsWords_declare plural singular
  exact start.of_vocabulary_eq (words world rfl _ later made)

/-- What kinds are called once a sentence has been carried out: what they were called, or what the
sentence calls them. The kinds that it makes come after all others. -/
theorem Reading.leads_perform (reading : Reading) (line : String)
    (menu : String → Except ResourceError (List String)) (declaration : Declaration) :
    Leads (· = base) (reading.perform line menu declaration)
      fun kinds later => base.Calls reading.Names later ∧
        ∀ id ∈ kinds, base.kinds.size ≤ id.index := by
  have perform : Leads (base.Calls reading.Names) (reading.perform line menu declaration)
      fun kinds later => base.Calls reading.Names later ∧
        ∀ id ∈ kinds, base.kinds.size ≤ id.index := by
    refine Leads.bind (Coinage.leads_mapM_create_of_given fun s p mem => .inl ⟨p, mem⟩)
      fun coined => .of_each fun world ⟨start, after⟩ => ?_
    have declare : Preserves (base.Calls reading.Names)
        (Statement.declare ⟨line, reading, coined, menu⟩ declaration) :=
      Statement.preserves_declare declaration fun name said => .inr said
    refine .bind (declare.weaken (fun _ same => same ▸ start) fun _ _ => id) fun _ =>
      .of_pure _ fun later h => ⟨h, fun id mem => ?_⟩
    obtain ⟨concept, among, same⟩ := List.mem_filterMap.mp mem
    cases concept <;> cases same
    exact after _ among
  exact perform.weaken (fun _ same => same ▸ calls_self base _) fun _ _ => id

end Worldsmith
