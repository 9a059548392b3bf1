import Worldsmith.Proofs.World.Reachable

/-!
# Whole worlds

What lies between two records is recorded in both of them: edges between kinds, the adjectives that
are relevant to kinds, and ways of verbs. Properties and parts are listed once, by the kind whose
they are. All changes of a world keep this up.

## Main definitions

* `World.IsWhole` — the records of a world refer to what is there, and agree with each other.

## Main statements

* `World.Reachable.isWhole` — all worlds that declarations lead to are whole.
-/

namespace Worldsmith

namespace World

variable {world later : World} {category : Category}

/-- Whether kinds list those things of a category whose owners they are, each of them once. -/
structure ListsOwned (world : World) (listed : Id .kind → List (Id category))
    (owner : Id category → Id .kind) : Prop where
  nodup : ∀ kind, (listed kind).Nodup
  mem_iff : ∀ kind id, id ∈ listed kind ↔ world.Owns id ∧ owner id = kind

/-- Whether kinds list their own properties. -/
def ListsProperties (world : World) : Prop :=
  world.ListsOwned (fun kind => (world.kind kind).properties) fun id => (world.property id).owner

/-- Whether kinds list their own parts. -/
def ListsParts (world : World) : Prop :=
  world.ListsOwned (fun kind => (world.kind kind).parts) fun id => (world.part id).owner

/-- Whether what lies between records is recorded in both. -/
structure IsMirrored (world : World) : Prop where
  nodup_edges : ∀ kind, (world.kind kind).superkinds.Nodup ∧ (world.kind kind).subkinds.Nodup
  mem_adjectives_iff : ∀ kind adjective, adjective ∈ (world.kind kind).adjectives ↔
    kind ∈ (world.adjective adjective).relevantTo
  mem_superspecies_iff : ∀ verb general, general ∈ (world.verb verb).superspecies ↔
    verb ∈ (world.verb general).subspecies
  notMem_superspecies : ∀ verb, verb ∉ (world.verb verb).superspecies
  properties : world.ListsProperties
  parts : world.ListsParts

/-! ## What a change of one record leaves alone -/

theorem field_modifyKind {β : Type} (field : Kind → β) (id kind : Id .kind) {f : Kind → Kind}
    (same : ∀ kind, field (f kind) = field kind) :
    field ((world.modifyKind id f).kind kind) = field (world.kind kind) := by
  rw [kind_modifyKind]
  split_ifs <;> simp only [same]

theorem kind_modifyKind_of_owns {id : Id .kind} (owned : world.Owns id) (kind : Id .kind)
    (f : Kind → Kind) : (world.modifyKind id f).kind kind =
      if id = kind then f (world.kind kind) else world.kind kind := by
  rw [kind_modifyKind]
  by_cases same : id = kind
  · subst same
    rw [if_pos ⟨rfl, owned⟩, if_pos rfl]
  · rw [if_neg fun both => same both.1, if_neg same]

theorem field_modifyVerb {β : Type} (field : Verb → β) (id verb : Id .verb) {f : Verb → Verb}
    (same : ∀ verb, field (f verb) = field verb) :
    field ((world.modifyVerb id f).verb verb) = field (world.verb verb) := by
  rw [verb_modifyVerb]
  split_ifs <;> simp only [same]

theorem adjective_modifyAdjective (world : World) (id a : Id .adjective)
    (f : Adjective → Adjective) : (world.modifyAdjective id f).adjective a =
      if id = a ∧ a.index < world.adjectives.size then f (world.adjective a)
      else world.adjective a := by
  obtain ⟨i⟩ := id
  obtain ⟨j⟩ := a
  simp only [adjective, modifyAdjective, getD_modify, Id.mk.injEq]

theorem owner_modifyProperty (id p : Id .property) (domain : PropertyDomain) :
    ((world.modifyProperty id fun old => { old with domain := domain }).property p).owner =
      (world.property p).owner := by
  simp only [property, modifyProperty, getD_modify]
  split_ifs <;> rfl

theorem field_addProperty {β : Type} (field : Kind → β) (owner kind : Id .kind) (name : Name)
    (domain : PropertyDomain)
    (same : ∀ kind properties, field { kind with properties := properties } = field kind) :
    field ((world.addProperty owner name domain).2.kind kind) = field (world.kind kind) := by
  rw [addProperty]
  split
  · rfl
  · exact field_modifyKind field owner kind fun kind => same kind _

theorem adjectives_addProperty (owner : Id .kind) (name : Name) (domain : PropertyDomain) :
    (world.addProperty owner name domain).2.adjectives = world.adjectives := by
  rw [addProperty]
  split <;> rfl

/-! ## Edges between kinds -/

/-- No edge is put in twice, at either end. -/
theorem Change.nodup_edges (change : world.Change later) (hierarchy : world.IsHierarchy)
    (nodup : ∀ kind, (world.kind kind).superkinds.Nodup ∧ (world.kind kind).subkinds.Nodup)
    (k : Id .kind) : (later.kind k).superkinds.Nodup ∧ (later.kind k).subkinds.Nodup := by
  have keep (super : ∀ k, (later.kind k).superkinds = (world.kind k).superkinds)
      (sub : ∀ k, (later.kind k).subkinds = (world.kind k).subkinds) :
      (later.kind k).superkinds.Nodup ∧ (later.kind k).subkinds.Nodup := by
    rw [super, sub]
    exact nodup k
  have framed (frames : world.Frames later) := keep frames.superkinds frames.subkinds
  cases change with
  | names | newAdjective | newVerb | newIndividual | silent | verb | exclusion | restriction
  | classify | characterize | value | expectation => exact nodup k
  | newKind _ singular plural =>
    have frames := frames_pushKind world singular plural
    exact keep frames.superkinds frames.subkinds
  | kind id change =>
    exact keep (fun k => field_modifyKind Kind.superkinds id k fun kind => (change.frame kind).1)
      fun k => field_modifyKind Kind.subkinds id k fun kind => (change.frame kind).2.1
  | edge sub parent _ _ _ new =>
    -- the edge is new at its upper end, too, because both ends list the same edges
    have newSub : sub ∉ (world.kind parent).subkinds := mt (hierarchy.mirrored sub parent).mp new
    have := nodup k
    simp only [kind_modifyKind, size_modifyKind]
    grind [List.nodup_append]
  | relevant kind adjective => exact framed (frames_makeRelevant world kind adjective)
  | wayOf =>
    rw [World.kind, kinds_addWayOf]
    exact nodup k
  | property owner name domain => exact framed (frames_addProperty world owner name domain)
  | part owner name kind modifiers => exact framed (frames_addPart world owner name kind modifiers)

/-! ## Adjectives of kinds -/

theorem Change.mem_adjectives_iff (change : world.Change later)
    (mirrored : ∀ kind adjective, adjective ∈ (world.kind kind).adjectives ↔
      kind ∈ (world.adjective adjective).relevantTo) (k : Id .kind) (a : Id .adjective) :
    a ∈ (later.kind k).adjectives ↔ k ∈ (later.adjective a).relevantTo := by
  have keep (kinds : ∀ k, (later.kind k).adjectives = (world.kind k).adjectives)
      (adjectives : ∀ a, (later.adjective a).relevantTo = (world.adjective a).relevantTo) :
      a ∈ (later.kind k).adjectives ↔ k ∈ (later.adjective a).relevantTo := by
    rw [kinds, adjectives]
    exact mirrored k a
  cases change with
  | names | newVerb | newIndividual | verb | exclusion | restriction | classify | characterize
  | value | expectation => exact mirrored k a
  | newKind => exact keep (fun _ => getD_push _ _ Kind.adjectives rfl) fun _ => rfl
  | newAdjective => exact keep (fun _ => rfl) fun _ => getD_push _ _ Adjective.relevantTo rfl
  | kind id change =>
    exact keep (fun k => field_modifyKind Kind.adjectives id k fun kind =>
      (change.frame kind).2.2.1) fun _ => rfl
  | silent id =>
    refine keep (fun _ => rfl) fun a => ?_
    rw [adjective_modifyAdjective]
    split_ifs <;> rfl
  | edge sub parent =>
    refine keep (fun k => ?_) fun _ => rfl
    simp only [kind_modifyKind]
    split_ifs <;> rfl
  | relevant kind adjective kindOwned adjectiveOwned =>
    have := mirrored k a
    simp only [Owns, count] at kindOwned adjectiveOwned
    change a ∈ ((world.modifyKind kind _).kind k).adjectives ↔
      k ∈ ((world.modifyAdjective adjective _).adjective a).relevantTo
    simp only [kind_modifyKind, adjective_modifyAdjective]
    grind [mem_adjoin]
  | wayOf specific general =>
    rw [addWayOf]
    split_ifs <;> exact mirrored k a
  | property owner name domain =>
    refine keep (fun k => ?_) fun a => by rw [World.adjective, adjectives_addProperty]; rfl
    exact field_addProperty Kind.adjectives owner k name domain fun _ _ => rfl
  | part owner name kind modifiers =>
    exact keep (fun k => field_modifyKind Kind.adjectives owner k fun _ => rfl) fun _ => rfl

/-! ## Ways of verbs -/

theorem Change.mem_superspecies_iff (change : world.Change later)
    (mirrored : ∀ verb general, general ∈ (world.verb verb).superspecies ↔
      verb ∈ (world.verb general).subspecies)
    (irreflexive : ∀ verb, verb ∉ (world.verb verb).superspecies) (v w : Id .verb) :
    (w ∈ (later.verb v).superspecies ↔ v ∈ (later.verb w).subspecies) ∧
      v ∉ (later.verb v).superspecies := by
  have old : (w ∈ (world.verb v).superspecies ↔ v ∈ (world.verb w).subspecies) ∧
      v ∉ (world.verb v).superspecies := ⟨mirrored v w, irreflexive v⟩
  have keep (super : ∀ v, (later.verb v).superspecies = (world.verb v).superspecies)
      (sub : ∀ v, (later.verb v).subspecies = (world.verb v).subspecies) :
      (w ∈ (later.verb v).superspecies ↔ v ∈ (later.verb w).subspecies) ∧
        v ∉ (later.verb v).superspecies := by
    rw [super, sub]
    exact old
  cases change with
  | names | newKind | newAdjective | newIndividual | kind | silent | edge | relevant
  | restriction | part | classify | characterize | value | expectation => exact old
  | newVerb _ base thirdPerson gerund =>
    have frames := frames_pushVerb world base thirdPerson gerund
    exact keep frames.superspecies frames.subspecies
  | verb id change =>
    exact keep (fun v => field_modifyVerb Verb.superspecies id v fun v => (change.frame v).2.1)
      fun v => field_modifyVerb Verb.subspecies id v fun v => (change.frame v).2.2
  | wayOf specific general specificOwned generalOwned apart =>
    rw [addWayOf]
    split_ifs with known
    · exact old
    · simp only [Owns, count] at specificOwned generalOwned
      simp only [verb_modifyVerb, size_modifyVerb]
      grind
  | exclusion => exact keep superspecies_addExclusion subspecies_addExclusion
  | property owner name domain =>
    have frames := frames_addProperty world owner name domain
    exact keep frames.superspecies frames.subspecies

/-! ## Properties and parts -/

namespace ListsOwned

variable {listed listed' : Id .kind → List (Id category)} {owner owner' : Id category → Id .kind}

theorem of_none (lists : ∀ kind, listed kind = []) (count : world.count category = 0) :
    world.ListsOwned listed owner where
  nodup kind := lists kind ▸ .nil
  mem_iff kind id := by simp [lists, Owns, count]

theorem of_eq (h : world.ListsOwned listed owner) (lists : ∀ kind, listed' kind = listed kind)
    (owners : ∀ id, owner' id = owner id) (count : later.count category = world.count category) :
    later.ListsOwned listed' owner' where
  nodup kind := lists kind ▸ h.nodup kind
  mem_iff kind id := by rw [lists, owners, Owns, count, h.mem_iff, Owns]

/-- Something new is listed by its owner. Nothing that is not there has been listed. -/
theorem push (h : world.ListsOwned listed owner) (own : Id .kind)
    (count : later.count category = world.count category + 1)
    (lists : ∀ kind, listed' kind =
      if own = kind then listed kind ++ [⟨world.count category⟩] else listed kind)
    (owners : ∀ id, owner' id = if id = ⟨world.count category⟩ then own else owner id) :
    later.ListsOwned listed' owner' := by
  have fresh (kind : Id .kind) : ⟨world.count category⟩ ∉ listed kind := fun mem =>
    Nat.lt_irrefl _ ((h.mem_iff kind _).mp mem).1
  refine ⟨fun kind => ?_, fun kind id => ?_⟩
  · rw [lists]
    split_ifs
    · exact List.nodup_append.mpr ⟨h.nodup kind, by simp, by grind⟩
    · exact h.nodup kind
  · have last : later.Owns id ↔ world.Owns id ∨ id = ⟨world.count category⟩ := by
      obtain ⟨i⟩ := id
      simp only [Owns, count, Id.mk.injEq]
      omega
    have := h.mem_iff kind id
    rw [lists, owners, last]
    grind

end ListsOwned

theorem property_push (world : World) (new : Property) (id : Id .property) :
    (World.property { world with properties := world.properties.push new } id) =
      if id = ⟨world.count .property⟩ then new else world.property id := by
  obtain ⟨i⟩ := id
  simp only [property, count, Array.getD_eq_getD_getElem?, Array.getElem?_push, Id.mk.injEq]
  split_ifs <;> rfl

theorem part_push (world : World) (new : Part) (id : Id .part) :
    (World.part { world with parts := world.parts.push new } id) =
      if id = ⟨world.count .part⟩ then new else world.part id := by
  obtain ⟨i⟩ := id
  simp only [part, count, Array.getD_eq_getD_getElem?, Array.getElem?_push, Id.mk.injEq]
  split_ifs <;> rfl

theorem ListsProperties.addProperty (h : world.ListsProperties) {owner : Id .kind} {name : Name}
    {domain : PropertyDomain} (owned : world.Owns owner) :
    (world.addProperty owner name domain).2.ListsProperties := by
  rw [World.addProperty]
  split
  · exact ListsOwned.of_eq h (fun _ => rfl) (fun p => owner_modifyProperty _ p domain)
      Array.size_modify
  · refine ListsOwned.push h owner (by simp [World.count, World.modifyKind])
      (fun kind => ?_) fun id => ?_
    · dsimp only
      rw [kind_modifyKind_of_owns]
      · split_ifs <;> rfl
      · exact owned
    · change (World.property { world with properties := world.properties.push _ } id).owner = _
      rw [property_push]
      split_ifs <;> rfl

theorem ListsParts.addPart (h : world.ListsParts) {owner kind : Id .kind} {name : Name}
    {modifiers : List Trait} (ownerOwned : world.Owns owner) :
    (world.addPart owner name kind modifiers).2.ListsParts := by
  refine ListsOwned.push h owner (by simp [World.count, World.addPart, World.modifyKind])
    (fun kind => ?_) fun id => ?_
  · rw [World.addPart]
    dsimp only
    rw [kind_modifyKind_of_owns]
    · split_ifs <;> rfl
    · exact ownerOwned
  · change (World.part { world with parts := world.parts.push _ } id).owner = _
    rw [part_push]
    split_ifs <;> rfl

theorem Change.listsProperties (change : world.Change later) (h : world.ListsProperties) :
    later.ListsProperties := by
  have keep (same : ∀ k, (later.kind k).properties = (world.kind k).properties)
      (properties : later.properties = world.properties) : later.ListsProperties :=
    ListsOwned.of_eq h same (fun p => by rw [World.property, properties, World.property])
      (by rw [count, count, properties])
  cases change with
  | names | newAdjective | newVerb | newIndividual | silent | verb | exclusion | classify
  | characterize | value | expectation => exact keep (fun _ => rfl) rfl
  | newKind => exact keep (fun _ => getD_push _ _ Kind.properties rfl) rfl
  | kind id change =>
    exact keep (fun k => field_modifyKind Kind.properties id k fun kind =>
      (change.frame kind).2.2.2.1) rfl
  | edge sub parent =>
    refine keep (fun k => ?_) rfl
    simp only [kind_modifyKind]
    split_ifs <;> rfl
  | relevant kind => exact keep (fun k => field_modifyKind Kind.properties kind k fun _ => rfl) rfl
  | wayOf specific general =>
    rw [addWayOf]
    split_ifs
    · exact h
    · exact ListsOwned.of_eq h (fun _ => rfl) (fun _ => rfl) rfl
  | property owner name domain owned => exact h.addProperty owned
  | restriction id =>
    exact ListsOwned.of_eq h (fun _ => rfl) (fun p => owner_modifyProperty id p _)
      Array.size_modify
  | part owner => exact keep (fun k => field_modifyKind Kind.properties owner k fun _ => rfl) rfl

theorem Change.listsParts (change : world.Change later) (h : world.ListsParts) :
    later.ListsParts := by
  have keep (same : ∀ k, (later.kind k).parts = (world.kind k).parts)
      (parts : later.parts = world.parts) : later.ListsParts :=
    ListsOwned.of_eq h same (fun p => by rw [World.part, parts, World.part])
      (by rw [count, count, parts])
  cases change with
  | names | newAdjective | newVerb | newIndividual | silent | verb | exclusion | restriction
  | classify | characterize | value | expectation => exact keep (fun _ => rfl) rfl
  | newKind => exact keep (fun _ => getD_push _ _ Kind.parts rfl) rfl
  | kind id change =>
    exact keep (fun k => field_modifyKind Kind.parts id k fun kind =>
      (change.frame kind).2.2.2.2) rfl
  | edge sub parent =>
    refine keep (fun k => ?_) rfl
    simp only [kind_modifyKind]
    split_ifs <;> rfl
  | relevant kind => exact keep (fun k => field_modifyKind Kind.parts kind k fun _ => rfl) rfl
  | wayOf specific general =>
    rw [addWayOf]
    split_ifs
    · exact h
    · exact ListsOwned.of_eq h (fun _ => rfl) (fun _ => rfl) rfl
  | property owner name domain =>
    refine keep (fun k => field_addProperty Kind.parts owner k name domain fun _ _ => rfl) ?_
    rw [World.addProperty]
    split <;> rfl
  | part owner name kind modifiers ownerOwned => exact h.addPart ownerOwned

/-! ## Whole worlds -/

theorem isMirrored_empty : empty.IsMirrored := by
  have kind (k : Id .kind) : empty.kind k = default := by simp [World.kind, empty]
  have verb (v : Id .verb) : empty.verb v = default := by simp [World.verb, empty]
  have adjective (a : Id .adjective) : empty.adjective a = default := by
    simp [World.adjective, empty]
  constructor
  · exact fun k => kind k ▸ ⟨.nil, .nil⟩
  · exact fun k a => by rw [kind, adjective]; exact iff_of_false List.not_mem_nil List.not_mem_nil
  · exact fun v w => by rw [verb, verb]; exact iff_of_false List.not_mem_nil List.not_mem_nil
  · exact fun v => verb v ▸ List.not_mem_nil
  · exact .of_none (fun k => by rw [kind]; rfl) rfl
  · exact .of_none (fun k => by rw [kind]; rfl) rfl

theorem Change.isMirrored (change : world.Change later) (hierarchy : world.IsHierarchy)
    (mirrored : world.IsMirrored) : later.IsMirrored := by
  have ways := change.mem_superspecies_iff mirrored.mem_superspecies_iff
    mirrored.notMem_superspecies
  exact ⟨change.nodup_edges hierarchy mirrored.nodup_edges,
    change.mem_adjectives_iff mirrored.mem_adjectives_iff, fun v w => (ways v w).1,
    fun v => (ways v v).2, change.listsProperties mirrored.properties,
    change.listsParts mirrored.parts⟩

theorem Becomes.isMirrored (becomes : world.Becomes later) (sound : world.IsSound)
    (mirrored : world.IsMirrored) : later.IsMirrored := by
  induction becomes with
  | refl => exact mirrored
  | tail before change ih => exact change.isMirrored (Becomes.isSound before sound).hierarchy ih

/-- Whether the records of a world refer only to what is there, and agree with each other. -/
structure IsWhole (world : World) : Prop where
  /-- Records refer to what is there. -/
  closed : world.IsClosed
  /-- Names stand for what is there. -/
  lexicon : world.lexicon.Binds world.Holds
  acyclic : ∀ kind, ¬Relation.TransGen world.JustBelow kind kind
  nodup_superkinds : ∀ kind, (world.kind kind).superkinds.Nodup
  nodup_subkinds : ∀ kind, (world.kind kind).subkinds.Nodup
  mem_superkinds_iff : ∀ sub parent, parent ∈ (world.kind sub).superkinds ↔
    sub ∈ (world.kind parent).subkinds
  mem_adjectives_iff : ∀ kind adjective, adjective ∈ (world.kind kind).adjectives ↔
    kind ∈ (world.adjective adjective).relevantTo
  mem_superspecies_iff : ∀ verb general, general ∈ (world.verb verb).superspecies ↔
    verb ∈ (world.verb general).subspecies
  notMem_superspecies : ∀ verb, verb ∉ (world.verb verb).superspecies
  mem_exclusions_iff : ∀ verb other, other ∈ (world.verb verb).exclusions ↔
    verb ∈ (world.verb other).exclusions
  notMem_exclusions : ∀ verb, verb ∉ (world.verb verb).exclusions
  /-- Each property is listed once, by the kind that it is of. -/
  properties : world.ListsProperties
  /-- Each part is listed once, by the kind that it is of. -/
  parts : world.ListsParts

theorem IsWhole.isHierarchy (whole : world.IsWhole) : world.IsHierarchy :=
  ⟨fun sub parent => (whole.mem_superkinds_iff sub parent).symm, whole.acyclic⟩

/-- All worlds that declarations lead to are whole. -/
theorem Reachable.isWhole (reachable : world.Reachable) : world.IsWhole := by
  have evolves := reachable.evolves
  have mirrored := evolves.becomes.isMirrored isSound_empty isMirrored_empty
  have reciprocal := evolves.sound.reciprocal
  exact ⟨evolves.closed, evolves.sound.lexicon, evolves.sound.hierarchy.acyclic,
    fun k => (mirrored.nodup_edges k).1, fun k => (mirrored.nodup_edges k).2,
    fun sub parent => (evolves.sound.hierarchy.mirrored sub parent).symm,
    mirrored.mem_adjectives_iff, mirrored.mem_superspecies_iff, mirrored.notMem_superspecies,
    fun v w => ⟨reciprocal.mem_exclusions v w, reciprocal.mem_exclusions w v⟩,
    reciprocal.notMem_exclusions, mirrored.properties, mirrored.parts⟩

end World

end Worldsmith
