import Worldsmith.Proofs.World.Change

/-!
# Changes keep worlds closed

Records are made of what a statement is about, and of what other records refer to. So they go on
referring to what is in the world.

## Main statements

* `World.Change.isClosed`, `World.Becomes.isClosed` — a closed world stays closed.
-/

namespace Worldsmith

theorem PropertyDomain.IsFresh.isIn {domain : PropertyDomain} (fresh : domain.IsFresh)
    (world : World) : domain.IsIn world := by
  cases domain with
  | range | text => trivial
  | menu =>
    obtain ⟨-, rfl⟩ := fresh
    exact nofun

namespace World

variable {world later : World}

/-! ## What can be said of a record by itself -/

theorem IsClosed.owns_of_below (closed : world.IsClosed) {kind above : Id .kind}
    (owned : world.Owns kind) (below : world.Below kind above) : world.Owns above := by
  induction below with
  | refl => exact owned
  | tail _ edge _ => exact (closed.kind _).superkinds _ edge

theorem mem_adjoinAll {α : Type} [DecidableEq α] {x : α} {added xs : List α} :
    x ∈ adjoinAll added xs ↔ x ∈ xs ∨ x ∈ added := by
  induction added generalizing xs with
  | nil => simp [adjoinAll]
  | cons a rest ih =>
    rw [adjoinAll, List.foldl_cons, ← adjoinAll, ih, mem_adjoin, List.mem_cons, or_assoc]

theorem KindChange.isIn {f : Kind → Kind} (change : world.KindChange f) {kind : Kind}
    (isIn : kind.IsIn world) : (f kind).IsIn world := by
  cases change with
  | wording plain =>
    obtain ⟨_, _, _, _, same⟩ := plain kind
    rw [same]
    exact { isIn with }
  | alternatives set _ traitsIn =>
    exact { isIn with
      alternatives := List.forall_mem_append.mpr ⟨isIn.alternatives, by simpa using traitsIn⟩ }
  | implications conditions consequents conditionsIn consequentsIn =>
    have known (i : Implication) (mem : i ∈ consequents.foldl
        (fun known consequent => adjoin ⟨conditions, consequent⟩ known) kind.implications) :
        i ∈ kind.implications ∨ i.conditions = conditions ∧ i.consequent ∈ consequents := by
      clear consequentsIn
      generalize kind.implications = old at mem ⊢
      induction consequents generalizing old with
      | nil => exact .inl mem
      | cons consequent rest ih =>
        rcases ih _ mem with mem | ⟨same, mem⟩
        · refine (mem_adjoin.mp mem).imp id ?_
          rintro rfl
          exact ⟨rfl, List.mem_cons_self⟩
        · exact .inr ⟨same, List.mem_cons_of_mem _ mem⟩
    exact { isIn with
      conditions := fun i mem => (known i mem).elim (isIn.conditions i) fun ⟨same, _⟩ =>
        same ▸ conditionsIn
      consequents := fun i mem => (known i mem).elim (isIn.consequents i) fun ⟨_, among⟩ =>
        consequentsIn _ among }

theorem VerbChange.isIn {id : Id .verb} {f : Verb → Verb} (change : world.VerbChange id f)
    {verb : Verb} (isIn : verb.IsIn world) : (f verb).IsIn world := by
  cases change with
  | density | symmetric | antiSymmetric | antiReflexive | reflexive | bound =>
    exact { isIn with }
  | generalization general owned =>
    exact { isIn with
      generalizations := fun id mem => (mem_adjoin.mp mem).elim (isIn.generalizations id)
        fun same => same ▸ owned }
  | signature subject object subjectOwned objectOwned =>
    exact { isIn with
      subjectKind := by simpa using subjectOwned
      objectKind := by simpa using objectOwned }
  | modifiers subject object subjectIn objectIn =>
    exact { isIn with
      subjectModifiers := fun trait mem => (mem_adjoinAll.mp mem).elim
        (isIn.subjectModifiers trait) (subjectIn trait)
      objectModifiers := fun trait mem => (mem_adjoinAll.mp mem).elim
        (isIn.objectModifiers trait) (objectIn trait) }

/-! ## Changes of a closed world -/

namespace IsClosed

variable (closed : world.IsClosed)
include closed

theorem modifyKind (id : Id .kind) {f : Kind → Kind}
    (step : ∀ kind, kind.IsIn world → (f kind).IsIn world) : (world.modifyKind id f).IsClosed := by
  refine closed.of_amends { grows := grows_modifyKind world id f, kinds := fun kind mem => ?_ }
  exact (mem_modifyKind mem).imp_right fun ⟨old, among, same⟩ =>
    same ▸ step old (closed.kinds old among)

theorem modifyAdjective (id : Id .adjective) {f : Adjective → Adjective}
    (step : ∀ adjective, adjective.IsIn world → (f adjective).IsIn world) :
    (world.modifyAdjective id f).IsClosed := by
  refine closed.of_amends
    { grows := grows_modifyAdjective world id f, adjectives := fun adjective mem => ?_ }
  exact (mem_modifyAdjective mem).imp_right fun ⟨old, among, same⟩ =>
    same ▸ step old (closed.adjectives old among)

theorem modifyVerb (id : Id .verb) {f : Verb → Verb}
    (step : ∀ verb, verb.IsIn world → (f verb).IsIn world) : (world.modifyVerb id f).IsClosed := by
  refine closed.of_amends { grows := grows_modifyVerb world id f, verbs := fun verb mem => ?_ }
  exact (mem_modifyVerb mem).imp_right fun ⟨old, among, same⟩ =>
    same ▸ step old (closed.verbs old among)

theorem modifyProperty (id : Id .property) {f : Property → Property}
    (step : ∀ property, property.IsIn world → (f property).IsIn world) :
    (world.modifyProperty id f).IsClosed := by
  refine closed.of_amends
    { grows := grows_modifyProperty world id f, properties := fun property mem => ?_ }
  exact (mem_modifyProperty mem).imp_right fun ⟨old, among, same⟩ =>
    same ▸ step old (closed.properties old among)

theorem modifyIndividual (id : Id .individual) {f : Individual → Individual}
    (step : ∀ individual, individual.IsIn world → (f individual).IsIn world) :
    (world.modifyIndividual id f).IsClosed := by
  refine closed.of_amends
    { grows := grows_modifyIndividual world id f, individuals := fun individual mem => ?_ }
  exact (mem_modifyIndividual mem).imp_right fun ⟨old, among, same⟩ =>
    same ▸ step old (closed.individuals old among)

theorem addEdge {sub parent : Id .kind} (subOwned : world.Owns sub)
    (parentOwned : world.Owns parent) :
    ((world.modifyKind sub fun k => { k with superkinds := k.superkinds ++ [parent] }).modifyKind
      parent fun k => { k with subkinds := k.subkinds ++ [sub] }).IsClosed := by
  refine (closed.modifyKind sub fun kind isIn => ?_).modifyKind parent fun kind isIn => ?_
  · exact { isIn with
      superkinds := List.forall_mem_append.mpr ⟨isIn.superkinds, by simpa using parentOwned⟩ }
  · have owned := subOwned.mono (grows_modifyKind world sub
      fun k => { k with superkinds := k.superkinds ++ [parent] })
    exact { isIn with
      subkinds := List.forall_mem_append.mpr ⟨isIn.subkinds, by simpa using owned⟩ }

theorem makeRelevant {kind : Id .kind} {adjective : Id .adjective} (kindOwned : world.Owns kind)
    (adjectiveOwned : world.Owns adjective) : (world.makeRelevant kind adjective).IsClosed := by
  refine (closed.modifyKind kind fun k isIn => ?_).modifyAdjective adjective fun a isIn id mem => ?_
  · exact { isIn with
      adjectives := fun id mem => (mem_adjoin.mp mem).elim (isIn.adjectives id)
        fun same => same ▸ adjectiveOwned }
  · refine (mem_adjoin.mp mem).elim (isIn id) ?_
    rintro rfl
    exact kindOwned.mono (grows_modifyKind world id _)

theorem addWayOf {specific general : Id .verb} (specificOwned : world.Owns specific)
    (generalOwned : world.Owns general) : (world.addWayOf specific general).IsClosed := by
  rw [World.addWayOf]
  split_ifs
  · exact closed
  refine (closed.modifyVerb specific fun verb isIn => ?_).modifyVerb general fun verb isIn => ?_
  · exact { isIn with
      superspecies := List.forall_mem_append.mpr ⟨isIn.superspecies, by simpa using generalOwned⟩ }
  · have owned := specificOwned.mono (grows_modifyVerb world specific
      fun v => { v with superspecies := v.superspecies ++ [general] })
    exact { isIn with
      subspecies := List.forall_mem_append.mpr ⟨isIn.subspecies, by simpa using owned⟩ }

theorem addExclusion {a b : Id .verb} (aOwned : world.Owns a) (bOwned : world.Owns b) :
    (world.addExclusion a b).IsClosed := by
  refine (closed.modifyVerb a fun verb isIn => ?_).modifyVerb b fun verb isIn => ?_
  · exact { isIn with
      exclusions := fun id mem => (mem_adjoin.mp mem).elim (isIn.exclusions id)
        fun same => same ▸ bOwned }
  · refine { isIn with
      exclusions := fun id mem => (mem_adjoin.mp mem).elim (isIn.exclusions id) ?_ }
    rintro rfl
    exact aOwned.mono (grows_modifyVerb world id _)

theorem addProperty {owner : Id .kind} {name : Name} {domain : PropertyDomain}
    (owned : world.Owns owner) (domainIn : domain.IsIn world) :
    (world.addProperty owner name domain).2.IsClosed := by
  rw [World.addProperty]
  split
  · exact closed.modifyProperty _ fun property isIn => ⟨isIn.owner, domainIn⟩
  have grows : world.Grows
      { world with properties := world.properties.push ⟨name, owner, domain⟩ } := by
    intro category
    cases category <;> simp [count]
  have pushed : World.IsClosed
      { world with properties := world.properties.push ⟨name, owner, domain⟩ } := by
    refine closed.of_amends { grows := grows, properties := fun property mem => ?_ }
    refine (Array.mem_push.mp mem).imp_right ?_
    rintro rfl
    exact ⟨owned, domainIn⟩
  exact pushed.modifyKind owner fun kind isIn => { isIn with
    properties := List.forall_mem_append.mpr ⟨isIn.properties, by simp [Owns, count]⟩ }

theorem addPart {owner kind : Id .kind} {name : Name} {modifiers : List Trait}
    (ownerOwned : world.Owns owner) (kindOwned : world.Owns kind)
    (modifiersIn : ∀ trait ∈ modifiers, trait.IsIn world) :
    (world.addPart owner name kind modifiers).2.IsClosed := by
  have grows : world.Grows
      { world with parts := world.parts.push ⟨name, owner, kind, modifiers⟩ } := by
    intro category
    cases category <;> simp [count]
  have pushed : World.IsClosed
      { world with parts := world.parts.push ⟨name, owner, kind, modifiers⟩ } := by
    refine closed.of_amends { grows := grows, parts := fun part mem => ?_ }
    refine (Array.mem_push.mp mem).imp_right ?_
    rintro rfl
    exact ⟨ownerOwned, kindOwned, modifiersIn⟩
  exact pushed.modifyKind owner fun kind isIn => { isIn with
    parts := List.forall_mem_append.mpr ⟨isIn.parts, by simp [Owns, count]⟩ }

end IsClosed

theorem mem_foldl_assume {traits xs : List Trait} {x : Trait}
    (mem : x ∈ traits.foldl assume xs) : x ∈ xs ∨ x ∈ traits := by
  induction traits generalizing xs with
  | nil => exact .inl mem
  | cons trait rest ih =>
    rcases ih mem with mem | mem
    · refine (mem_adjoin.mp mem).imp List.mem_of_mem_filter ?_
      rintro rfl
      exact List.mem_cons_self
    · exact .inr (List.mem_cons_of_mem _ mem)

theorem mem_of_mem_mostSpecific {kinds : List (Id .kind)} {kind : Id .kind}
    (mem : kind ∈ world.mostSpecific kinds) : kind ∈ kinds :=
  List.mem_of_mem_filter (List.mem_eraseDups.mp mem)

theorem Change.isClosed (change : world.Change later) (closed : world.IsClosed) :
    later.IsClosed := by
  have grows := change.grows
  cases change with
  | names => exact closed.of_amends { grows := grows }
  | newKind =>
    refine closed.of_amends
      { grows := grows, kinds := fun kind mem => (Array.mem_push.mp mem).imp_right ?_ }
    rintro rfl
    constructor <;> exact nofun
  | newAdjective =>
    refine closed.of_amends
      { grows := grows, adjectives := fun adjective mem => (Array.mem_push.mp mem).imp_right ?_ }
    rintro rfl
    exact nofun
  | newVerb =>
    refine closed.of_amends
      { grows := grows, verbs := fun verb mem => (Array.mem_push.mp mem).imp_right ?_ }
    rintro rfl
    constructor <;> exact nofun
  | newIndividual =>
    refine closed.of_amends
      { grows := grows, individuals := fun individual mem => (Array.mem_push.mp mem).imp_right ?_ }
    rintro rfl
    constructor <;> exact nofun
  | kind id change => exact closed.modifyKind id fun kind => change.isIn
  | silent id => exact closed.modifyAdjective id fun adjective isIn => isIn
  | verb id change => exact closed.modifyVerb id fun verb => change.isIn
  | edge sub parent subOwned parentOwned => exact closed.addEdge subOwned parentOwned
  | relevant kind adjective kindOwned adjectiveOwned =>
    exact closed.makeRelevant kindOwned adjectiveOwned
  | wayOf specific general specificOwned generalOwned =>
    exact closed.addWayOf specificOwned generalOwned
  | exclusion a b aOwned bOwned => exact closed.addExclusion aOwned bOwned
  | property owner name domain owned fresh => exact closed.addProperty owned (fresh.isIn world)
  | restriction id source values restrictions restriction known conditionsIn =>
    refine closed.modifyProperty id fun property isIn => ⟨isIn.owner, ?_⟩
    have old : (world.property id).domain.IsIn world := closed.property id
    rw [known] at old
    exact List.forall_mem_append.mpr ⟨old, by simpa using conditionsIn⟩
  | part owner name kind modifiers ownerOwned kindOwned modifiersIn =>
    exact closed.addPart ownerOwned kindOwned modifiersIn
  | classify id kind traits owned traitsIn =>
    refine closed.modifyIndividual id fun individual isIn => { isIn with
      kinds := fun other mem => ?_
      modifiers := fun trait mem => (mem_adjoinAll.mp mem).elim (isIn.modifiers trait)
        (traitsIn trait) }
    rcases List.mem_append.mp (mem_of_mem_mostSpecific mem) with mem | mem
    · exact (closed.individual id).kinds other mem
    · exact List.mem_singleton.mp mem ▸ owned
  | characterize id traits traitsIn =>
    exact closed.modifyIndividual id fun individual isIn => { isIn with
      modifiers := fun trait mem => (mem_foldl_assume mem).elim (isIn.modifiers trait)
        (traitsIn trait) }
  | value id property text owned =>
    refine closed.modifyIndividual id fun individual isIn => { isIn with
      properties := List.forall_mem_append.mpr ⟨fun value mem => ?_, ?_⟩ }
    · exact isIn.properties value (List.mem_of_mem_filter mem)
    · simpa using owned
  | expectation expectation expectationIn =>
    refine closed.of_amends
      { grows := grows, expectations := fun other mem => (Array.mem_push.mp mem).imp_right ?_ }
    exact fun same => same ▸ expectationIn

theorem Becomes.isClosed (becomes : world.Becomes later) (closed : world.IsClosed) :
    later.IsClosed := by
  induction becomes with
  | refl => exact closed
  | tail _ change ih => exact change.isClosed ih

end World

end Worldsmith
