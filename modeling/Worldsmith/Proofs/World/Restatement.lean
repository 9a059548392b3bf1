import Worldsmith.Proofs.Blueprint.Taxonomy
import Worldsmith.Proofs.World.Registry
import Worldsmith.Proofs.World.Signatures
import Worldsmith.World.Restatement

/-!
# What is restated of kinds

Of a world that holds nothing but kinds, with regular names, all that is restated is which kinds are
kinds of which: a sentence for each edge. Such a world stays one as kinds are made, and as one kind
is put below another.

## Main definitions

* `World.IsPlainTaxonomy` — nothing is declared but kinds, by regular names.
* `World.edges` — the edges between kinds, kind by kind.
* `World.withKind` — the world with one more kind.

## Main statements

* `World.IsPlainTaxonomy.restate_eq` — what is restated are the edges.
* `World.perform_addKind` — a kind is made of names that are not taken.
* `World.perform_declareSuperkind_new` — an edge is drawn if it closes no circle and is new.
-/

namespace Worldsmith.World

variable {world : World} {id sub parent : Id .kind} {singular plural name : Name}

/-- Whether all that a world says is which kinds are kinds of which, by regular names. -/
structure IsPlainTaxonomy (world : World) : Prop extends world.IsTaxonomy where
  untemplated : ∀ kind, (world.kind kind).nameTemplate = none ∧
    (world.kind kind).descriptionTemplate = none
  nodup : ∀ kind, (world.kind kind).superkinds.Nodup
  regular : ∀ kind, world.Owns kind →
    (world.kind kind).singular.plural = .ok (world.kind kind).plural
  expectations : world.expectations = #[]

theorem isPlainTaxonomy_empty : empty.IsPlainTaxonomy := by
  have nothing (kind : Id .kind) : empty.kind kind = default := kind_of_size_le (Nat.zero_le _)
  exact ⟨⟨isSound_empty.hierarchy, fun kind => nothing kind ▸ ⟨rfl, rfl, rfl, rfl, rfl⟩, rfl, rfl,
    rfl⟩, fun kind => nothing kind ▸ ⟨rfl, rfl⟩, fun kind => nothing kind ▸ List.nodup_nil, nofun,
    rfl⟩

/-! ## What is restated -/

/-- The edges between kinds, kind by kind. -/
def edges (world : World) : List (Id .kind × Id .kind) :=
  world.kindIds.flatMap fun kind => (world.kind kind).superkinds.map fun parent => (kind, parent)

theorem mem_edges : (sub, parent) ∈ world.edges ↔ world.JustBelow sub parent := by
  simp only [edges, List.mem_flatMap, List.mem_map, Prod.mk.injEq, mem_kindIds_iff]
  constructor
  · rintro ⟨_, -, _, edge, rfl, rfl⟩
    exact edge
  · exact fun edge => ⟨sub, lt_size_of_justBelow edge, parent, edge, rfl, rfl⟩

theorem IsPlainTaxonomy.nodup_edges (plain : world.IsPlainTaxonomy) : world.edges.Nodup := by
  have kinds : world.kindIds.Nodup := List.nodup_range.map fun i j same => congrArg Id.index same
  refine List.nodup_flatMap.mpr ⟨fun kind _ => ?_, kinds.imp fun apart => ?_⟩
  · exact (plain.nodup kind).map fun a b same => congrArg Prod.snd same
  · simp only [Function.onFun, List.disjoint_left, List.mem_map]
    rintro _ ⟨_, -, rfl⟩ ⟨_, -, same⟩
    exact apart (congrArg Prod.fst same).symm

/-- The sentence for an edge. -/
def edgeLine (world : World) (edge : Id .kind × Id .kind) : String :=
  world.kindPlural edge.1 ++ " are kinds of " ++ world.kindPlural edge.2

theorem IsPlainTaxonomy.restate_eq (plain : world.IsPlainTaxonomy) :
    world.restate = world.edges.map world.edgeLine := by
  have plurals : world.kindIds.flatMap world.restatePlural = [] := by
    refine List.flatMap_eq_nil_iff.mpr fun kind mem => ?_
    rw [restatePlural, plain.regular kind (mem_kindIds_iff.mp mem)]
    simp [Except.toOption]
  have rest : world.kindIds.flatMap world.restateKind = [] := by
    refine List.flatMap_eq_nil_iff.mpr fun kind _ => ?_
    have bare := plain.bare kind
    have untemplated := plain.untemplated kind
    simp [restateKind, restatePossibilities, restateTemplate, bare.adjectives, bare.alternativeSets,
      bare.implications, bare.properties, bare.parts, untemplated]
  have verbs : world.verbIds = [] := by simp [verbIds, plain.verbs, Id.upTo]
  rw [restate, plurals, rest, verbs, plain.adjectives, plain.individuals, plain.expectations]
  simp only [edges, List.map_flatMap, List.map_map, List.filter_nil, List.map_nil,
    List.flatMap_nil, List.append_nil, List.nil_append]
  rfl

/-! ## One more kind -/

/-- The world with one more kind that nothing is known of but its name. -/
def withKind (world : World) (singular plural : Name) : World :=
  { world with
    kinds := world.kinds.push (.named singular plural)
    lexicon := world.lexicon.bindAll (.kind ⟨world.kinds.size⟩)
      (Vocabulary.boundForms singular plural) }

theorem perform_register {concept : Concept} {form : WordForm}
    (fair : ∀ found, world.find? name = some found → found.value.sameSort concept = true) :
    (Edit.register name concept form).perform world =
      (.ok (), { world with lexicon := world.lexicon.store (some ⟨concept, form⟩) name }) := by
  rw [Edit.register, Edit.perform_bind, Edit.perform_get]
  dsimp only
  split
  · rename_i found leads
    simp only [fair found leads, Bool.not_true, Bool.false_eq_true, if_false]
    rfl
  · rfl

/-- A kind is made of names that are not taken. -/
theorem perform_addKind (free : world.find? singular = none) (free' : world.find? plural = none) :
    (Edit.addKind (some singular) (some plural)).perform world =
      (.ok ⟨world.kinds.size⟩, world.withKind singular plural) := by
  rw [Edit.addKind, Edit.bothForms]
  simp only [pure_bind]
  rw [Edit.perform_bind, Edit.perform_get]
  dsimp only
  split_ifs with same
  · rw [Edit.perform_bind, perform_register (by simp [free])]
    simp only [withKind, Vocabulary.boundForms, if_pos same]
    rfl
  · rw [Edit.perform_bind, perform_register (by simp [free])]
    dsimp only
    rw [Edit.perform_bind, perform_register]
    · simp only [withKind, Vocabulary.boundForms, if_neg same]
      rfl
    · -- both numbers may be spelt alike
      intro found leads
      rw [find?, Lexicon.get?_store] at leads
      split_ifs at leads
      · cases leads
        rfl
      · cases free'.symm.trans leads

theorem fst_mem_of_mem_boundForms {form : Name × WordForm}
    (mem : form ∈ Vocabulary.boundForms singular plural) : form.1 ∈ [singular, plural] :=
  fst_mem_of_mem_numberForms ((Vocabulary.covers_boundForms singular plural).only mem)

theorem exists_mem_boundForms (singular plural : Name) :
    ∃ form ∈ Vocabulary.boundForms singular plural, form.1.keys = plural.keys := by
  rw [Vocabulary.boundForms]
  split_ifs with same
  · exact ⟨_, List.mem_singleton_self _, Name.keys_eq_of_same same⟩
  · exact ⟨(plural, .plural), by simp, rfl⟩

theorem kind_withKind (kind : Id .kind) : (world.withKind singular plural).kind kind =
    if kind = ⟨world.kinds.size⟩ then .named singular plural else world.kind kind := by
  obtain ⟨i⟩ := kind
  simp only [World.kind, World.withKind, Array.getD_eq_getD_getElem?, Array.getElem?_push,
    Id.mk.injEq]
  split_ifs <;> rfl

theorem superkinds_withKind (world : World) (singular plural : Name) (kind : Id .kind) :
    ((world.withKind singular plural).kind kind).superkinds = (world.kind kind).superkinds :=
  (frames_pushKind world singular plural).superkinds kind

theorem justBelow_withKind_iff :
    (world.withKind singular plural).JustBelow sub parent ↔ world.JustBelow sub parent := by
  rw [JustBelow, superkinds_withKind, JustBelow]

/-- The new kind is found by its name. -/
theorem exists_find?_withKind (world : World) (singular plural : Name) : ∃ form,
    (world.withKind singular plural).find? plural = some ⟨.kind ⟨world.kinds.size⟩, form⟩ := by
  obtain ⟨form, -, -, leads⟩ := Lexicon.get?_bindAll_of_mem (exists_mem_boundForms singular plural)
  exact ⟨form.2, leads⟩

/-- Other names lead where they led before. -/
theorem find?_withKind_of_apart (apart : ∀ own ∈ [singular, plural], name.keys ≠ own.keys) :
    (world.withKind singular plural).find? name = world.find? name :=
  Lexicon.get?_bindAll_of_apart fun _ mem => apart _ (fst_mem_of_mem_boundForms mem)

theorem IsPlainTaxonomy.withKind (plain : world.IsPlainTaxonomy)
    (regular : singular.plural = .ok plural) :
    (world.withKind singular plural).IsPlainTaxonomy where
  hierarchy := ((frames_pushKind world singular plural).isHierarchy plain.hierarchy).of_kinds_eq rfl
  bare kind := by
    rw [kind_withKind]
    split_ifs
    · exact ⟨rfl, rfl, rfl, rfl, rfl⟩
    · exact plain.bare kind
  adjectives := plain.adjectives
  verbs := plain.verbs
  individuals := plain.individuals
  untemplated kind := by
    rw [kind_withKind]
    split_ifs
    · exact ⟨rfl, rfl⟩
    · exact plain.untemplated kind
  nodup kind := superkinds_withKind world singular plural kind ▸ plain.nodup kind
  regular kind owned := by
    rw [kind_withKind]
    split_ifs with same
    · exact regular
    · have owned : kind.index < (world.kinds.push (.named singular plural)).size := owned
      rw [Array.size_push] at owned
      exact plain.regular kind (Nat.lt_of_le_of_ne (Nat.le_of_lt_succ owned) (index_ne same))
  expectations := plain.expectations

/-! ## One more edge -/

theorem size_addEdge : (world.addEdge sub parent).kinds.size = world.kinds.size :=
  (size_modifyKind _ _ _).trans (size_modifyKind _ _ _)

theorem vocabulary_addEdge : (world.addEdge sub parent).vocabulary = world.vocabulary := by
  rw [World.addEdge, vocabulary_modifyKind, vocabulary_modifyKind] <;> exact fun _ => rfl

theorem kind_addEdge (subOwned : world.Owns sub) (parentOwned : world.Owns parent)
    (kind : Id .kind) : (world.addEdge sub parent).kind kind = { world.kind kind with
      superkinds := (world.kind kind).superkinds ++ if kind = sub then [parent] else []
      subkinds := (world.kind kind).subkinds ++ if kind = parent then [sub] else [] } := by
  have here {id : Id .kind} (owned : world.Owns id) :
      (id = kind ∧ kind.index < world.kinds.size) ↔ kind = id :=
    ⟨fun same => same.1.symm, by rintro rfl; exact ⟨rfl, owned⟩⟩
  simp only [World.addEdge, kind_modifyKind, size_modifyKind, here subOwned, here parentOwned]
  split_ifs <;> simp

theorem justBelow_addEdge_iff {s p : Id .kind} (subOwned : world.Owns sub)
    (parentOwned : world.Owns parent) :
    (world.addEdge sub parent).JustBelow s p ↔ world.JustBelow s p ∨ s = sub ∧ p = parent := by
  rw [JustBelow, kind_addEdge subOwned parentOwned, List.mem_append, JustBelow]
  split_ifs with same <;> simp [same]

theorem IsPlainTaxonomy.addEdge (plain : world.IsPlainTaxonomy) (subOwned : world.Owns sub)
    (parentOwned : world.Owns parent) (free : ¬ world.Below parent sub)
    (new : ¬ world.JustBelow sub parent) : (world.addEdge sub parent).IsPlainTaxonomy where
  hierarchy := isHierarchy_addEdge plain.hierarchy subOwned parentOwned free
  bare kind := by
    obtain ⟨adjectives, sets, implications, properties, parts⟩ := plain.bare kind
    rw [kind_addEdge subOwned parentOwned]
    exact ⟨adjectives, sets, implications, properties, parts⟩
  adjectives := plain.adjectives
  verbs := plain.verbs
  individuals := plain.individuals
  untemplated kind := kind_addEdge subOwned parentOwned kind ▸ plain.untemplated kind
  nodup kind := by
    rw [kind_addEdge subOwned parentOwned]
    refine (plain.nodup kind).append (by split_ifs <;> simp) ?_
    split_ifs with same
    · simpa [same, JustBelow] using new
    · simp
  regular kind owned := by
    rw [kind_addEdge subOwned parentOwned]
    have inside : kind.index < (world.addEdge sub parent).kinds.size := owned
    rw [size_addEdge] at inside
    exact plain.regular kind inside
  expectations := plain.expectations

theorem perform_declareSuperkind_new (free : ¬ world.Below parent sub)
    (new : ¬ world.JustBelow sub parent) : (Edit.declareSuperkind sub parent).perform world =
      (.ok (), world.addEdge sub parent) := by
  have free : world.isA parent sub = false := by
    rw [← Bool.not_eq_true]
    exact fun above => free (below_of_isAWithin above)
  have new : ((world.kind sub).superkinds.contains parent) = false := by
    simpa [JustBelow] using new
  rw [Edit.declareSuperkind, Edit.perform_bind, Edit.perform_get]
  simp only [free, new, Bool.false_eq_true, if_false, Bool.not_false, if_true]
  rfl

end Worldsmith.World
