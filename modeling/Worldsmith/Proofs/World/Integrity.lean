import Worldsmith.Proofs.Language.Lexicon
import Worldsmith.Proofs.Lists
import Worldsmith.Proofs.World.Hierarchy
import Worldsmith.Proofs.World.Names
import Worldsmith.World.Edit

/-!
# Sound worlds

Names stand for concepts that there are, kinds form a hierarchy, and verbs agree on how they stand
to each other. Changes of anything else leave a world sound, and so do the changes of these when
they are about concepts of the world.

## Main definitions

* `World.IsSound` — all this is so.
* `World.Frames` — the concepts of a world stand to each other as they did.
-/

namespace Worldsmith

namespace World

variable {world world' last : World} {k sub parent : Id .kind} {a b v : Id .verb}
  {concept : Concept}

theorem mem_adjoin {α : Type} [DecidableEq α] {x y : α} {xs : List α} :
    x ∈ adjoin y xs ↔ x ∈ xs ∨ x = y := by
  rw [adjoin]
  split_ifs with known
  · exact ⟨.inl, fun h => h.elim id fun same => same ▸ List.contains_iff_mem.mp known⟩
  · rw [List.mem_append, List.mem_singleton]

/-- Whether verbs agree on how they stand to each other. -/
structure IsReciprocal (world : World) : Prop where
  mem_exclusions : ∀ verb other, other ∈ (world.verb verb).exclusions →
    verb ∈ (world.verb other).exclusions
  notMem_exclusions : ∀ verb, verb ∉ (world.verb verb).exclusions
  mem_superspecies : ∀ verb way, way ∈ (world.verb verb).subspecies →
    verb ∈ (world.verb way).superspecies

/-- Whether names stand for concepts of the world, kinds form a hierarchy, and verbs agree on how
they stand to each other. -/
structure IsSound (world : World) : Prop where
  lexicon : world.lexicon.Binds world.Holds
  hierarchy : world.IsHierarchy
  reciprocal : world.IsReciprocal

theorem IsHierarchy.of_kinds_eq (h : world.IsHierarchy) (same : world'.kinds = world.kinds) :
    world'.IsHierarchy := by
  have edges : world'.JustBelow = world.JustBelow := by
    funext
    simp only [JustBelow, kind, same]
  refine ⟨?_, edges ▸ h.acyclic⟩
  simpa only [edges, kind, same] using h.mirrored

theorem IsReciprocal.of_verbs_eq (h : world.IsReciprocal) (same : world'.verbs = world.verbs) :
    world'.IsReciprocal := by
  have verbs : world'.verb = world.verb := by
    funext
    rw [verb, verb, same]
  exact ⟨verbs ▸ h.mem_exclusions, verbs ▸ h.notMem_exclusions, verbs ▸ h.mem_superspecies⟩

/-- Whether the concepts of a world are concepts of another, and have their names and stand to each
other there as they did. -/
structure Frames (world world' : World) : Prop where
  lexicon : world'.lexicon = world.lexicon
  holds : ∀ concept, world.Holds concept → world'.Holds concept
  superkinds : ∀ k, (world'.kind k).superkinds = (world.kind k).superkinds
  subkinds : ∀ k, (world'.kind k).subkinds = (world.kind k).subkinds
  exclusions : ∀ v, (world'.verb v).exclusions = (world.verb v).exclusions
  superspecies : ∀ v, (world'.verb v).superspecies = (world.verb v).superspecies
  subspecies : ∀ v, (world'.verb v).subspecies = (world.verb v).subspecies

namespace Frames

theorem trans (h : world.Frames world') (g : world'.Frames last) : world.Frames last where
  lexicon := g.lexicon.trans h.lexicon
  holds concept held := g.holds concept (h.holds concept held)
  superkinds k := (g.superkinds k).trans (h.superkinds k)
  subkinds k := (g.subkinds k).trans (h.subkinds k)
  exclusions v := (g.exclusions v).trans (h.exclusions v)
  superspecies v := (g.superspecies v).trans (h.superspecies v)
  subspecies v := (g.subspecies v).trans (h.subspecies v)

theorem isHierarchy (h : world.Frames world') (hierarchy : world.IsHierarchy) :
    world'.IsHierarchy := by
  have edges : world'.JustBelow = world.JustBelow := by
    funext sub parent
    rw [JustBelow, JustBelow, h.superkinds]
  refine ⟨fun sub parent => ?_, ?_⟩
  · rw [edges, h.subkinds]
    exact hierarchy.mirrored sub parent
  · rw [edges]
    exact hierarchy.acyclic

theorem isReciprocal (h : world.Frames world') (reciprocal : world.IsReciprocal) :
    world'.IsReciprocal := by
  refine ⟨?_, ?_, ?_⟩
  all_goals simp only [h.exclusions, h.superspecies, h.subspecies]
  · exact reciprocal.mem_exclusions
  · exact reciprocal.notMem_exclusions
  · exact reciprocal.mem_superspecies

end Frames

/-! ## Changing one thing -/

theorem size_modifyKind (world : World) (id : Id .kind) (f : Kind → Kind) :
    (world.modifyKind id f).kinds.size = world.kinds.size := Array.size_modify

theorem size_modifyVerb (world : World) (id : Id .verb) (f : Verb → Verb) :
    (world.modifyVerb id f).verbs.size = world.verbs.size := Array.size_modify

theorem holds_modifyKind {id : Id .kind} {f : Kind → Kind} :
    (world.modifyKind id f).Holds concept ↔ world.Holds concept := by
  cases concept <;> simp [Holds, modifyKind]

theorem holds_modifyVerb {id : Id .verb} {f : Verb → Verb} :
    (world.modifyVerb id f).Holds concept ↔ world.Holds concept := by
  cases concept <;> simp [Holds, modifyVerb]

theorem kind_modifyKind (world : World) (id k : Id .kind) (f : Kind → Kind) :
    (world.modifyKind id f).kind k =
      if id = k ∧ k.index < world.kinds.size then f (world.kind k) else world.kind k := by
  obtain ⟨i⟩ := id
  obtain ⟨j⟩ := k
  simp only [kind, modifyKind, getD_modify, Id.mk.injEq]

theorem verb_modifyVerb (world : World) (id v : Id .verb) (f : Verb → Verb) :
    (world.modifyVerb id f).verb v =
      if id = v ∧ v.index < world.verbs.size then f (world.verb v) else world.verb v := by
  obtain ⟨i⟩ := id
  obtain ⟨j⟩ := v
  simp only [verb, modifyVerb, getD_modify, Id.mk.injEq]

theorem frames_of_eq (lexicon : world'.lexicon = world.lexicon)
    (kinds : world'.kinds = world.kinds) (verbs : world'.verbs = world.verbs)
    (adjectives : world.adjectives.size ≤ world'.adjectives.size)
    (individuals : world.individuals.size ≤ world'.individuals.size) : world.Frames world' := by
  refine ⟨lexicon, fun concept held => ?_, ?_, ?_, ?_, ?_, ?_⟩
  · cases concept
    case kind => simpa only [Holds, kinds] using held
    case adjective => exact Nat.lt_of_lt_of_le held adjectives
    case verb => simpa only [Holds, verbs] using held
    case individual => exact Nat.lt_of_lt_of_le held individuals
  all_goals intro; simp only [kind, verb, kinds, verbs]

theorem frames_modifyKind (world : World) (id : Id .kind) {f : Kind → Kind}
    (superkinds : ∀ kind, (f kind).superkinds = kind.superkinds)
    (subkinds : ∀ kind, (f kind).subkinds = kind.subkinds) :
    world.Frames (world.modifyKind id f) where
  lexicon := rfl
  holds _ := holds_modifyKind.mpr
  superkinds k := by rw [kind_modifyKind]; split_ifs <;> simp only [superkinds]
  subkinds k := by rw [kind_modifyKind]; split_ifs <;> simp only [subkinds]
  exclusions _ := rfl
  superspecies _ := rfl
  subspecies _ := rfl

theorem frames_modifyVerb (world : World) (id : Id .verb) {f : Verb → Verb}
    (exclusions : ∀ verb, (f verb).exclusions = verb.exclusions)
    (superspecies : ∀ verb, (f verb).superspecies = verb.superspecies)
    (subspecies : ∀ verb, (f verb).subspecies = verb.subspecies) :
    world.Frames (world.modifyVerb id f) where
  lexicon := rfl
  holds _ := holds_modifyVerb.mpr
  superkinds _ := rfl
  subkinds _ := rfl
  exclusions v := by rw [verb_modifyVerb]; split_ifs <;> simp only [exclusions]
  superspecies v := by rw [verb_modifyVerb]; split_ifs <;> simp only [superspecies]
  subspecies v := by rw [verb_modifyVerb]; split_ifs <;> simp only [subspecies]

theorem frames_pushKind (world : World) (singular plural : Name) :
    world.Frames { world with kinds := world.kinds.push (.named singular plural) } where
  lexicon := rfl
  holds concept held := by
    cases concept
    case kind => exact Nat.lt_of_lt_of_le held (by simp)
    all_goals exact held
  superkinds k := getD_push _ _ Kind.superkinds rfl
  subkinds k := getD_push _ _ Kind.subkinds rfl
  exclusions _ := rfl
  superspecies _ := rfl
  subspecies _ := rfl

theorem frames_pushVerb (world : World) (base thirdPerson gerund : Name) :
    world.Frames { world with verbs := world.verbs.push (.named base thirdPerson gerund) } where
  lexicon := rfl
  holds concept held := by
    cases concept
    case verb => exact Nat.lt_of_lt_of_le held (by simp)
    all_goals exact held
  superkinds _ := rfl
  subkinds _ := rfl
  exclusions v := getD_push _ _ Verb.exclusions rfl
  superspecies v := getD_push _ _ Verb.superspecies rfl
  subspecies v := getD_push _ _ Verb.subspecies rfl

theorem frames_modifyAdjective (world : World) (id : Id .adjective) (f : Adjective → Adjective) :
    world.Frames (world.modifyAdjective id f) :=
  frames_of_eq rfl rfl rfl (Nat.le_of_eq Array.size_modify.symm) le_rfl

theorem frames_modifyIndividual (world : World) (id : Id .individual)
    (f : Individual → Individual) : world.Frames (world.modifyIndividual id f) :=
  frames_of_eq rfl rfl rfl le_rfl (Nat.le_of_eq Array.size_modify.symm)

theorem frames_addProperty (world : World) (owner : Id .kind) (name : Name)
    (domain : PropertyDomain) : world.Frames (world.addProperty owner name domain).2 := by
  rw [addProperty]
  split
  · exact frames_of_eq rfl rfl rfl le_rfl le_rfl
  · refine .trans ?_ (frames_modifyKind _ owner ?_ ?_)
    · exact frames_of_eq rfl rfl rfl le_rfl le_rfl
    all_goals exact fun _ => rfl

theorem frames_addPart (world : World) (owner : Id .kind) (name : Name) (kind : Id .kind)
    (modifiers : List Trait) : world.Frames (world.addPart owner name kind modifiers).2 := by
  refine .trans ?_ (frames_modifyKind _ owner ?_ ?_)
  · exact frames_of_eq rfl rfl rfl le_rfl le_rfl
  all_goals exact fun _ => rfl

theorem frames_makeRelevant (world : World) (kind : Id .kind) (adjective : Id .adjective) :
    world.Frames (world.makeRelevant kind adjective) := by
  refine .trans (frames_modifyKind world kind ?_ ?_) (frames_modifyAdjective _ adjective _)
  all_goals exact fun _ => rfl

/-! ## Sound worlds -/

theorem isSound_empty : empty.IsSound := by
  have kind (k : Id .kind) : empty.kind k = default := by simp [World.kind, empty]
  have verb (v : Id .verb) : empty.verb v = default := by simp [World.verb, empty]
  have superkinds : (default : Kind).superkinds = [] := rfl
  have subkinds : (default : Kind).subkinds = [] := rfl
  have exclusions : (default : Verb).exclusions = [] := rfl
  have subspecies : (default : Verb).subspecies = [] := rfl
  have edge (sub parent : Id .kind) : ¬empty.JustBelow sub parent := by
    simp [JustBelow, kind, superkinds]
  refine ⟨Lexicon.binds_empty, ⟨?_, ?_⟩, ⟨?_, ?_, ?_⟩⟩
  · simp [kind, subkinds, edge]
  · rintro k cycle
    obtain ⟨_, first, -⟩ := Relation.TransGen.head'_iff.mp cycle
    exact edge _ _ first
  all_goals simp [verb, exclusions, subspecies]

/-- The edges after one has been put in, which must not lead from above to below. -/
theorem isHierarchy_of_edge (hierarchy : world.IsHierarchy)
    (up : ∀ s p, p ∈ (world'.kind s).superkinds ↔
      p ∈ (world.kind s).superkinds ∨ s = sub ∧ p = parent)
    (down : ∀ s p, s ∈ (world'.kind p).subkinds ↔
      s ∈ (world.kind p).subkinds ∨ s = sub ∧ p = parent)
    (free : ¬world.Below parent sub) : world'.IsHierarchy := by
  have way {s p : Id .kind} (h : Relation.TransGen world'.JustBelow s p) :
      Relation.TransGen world.JustBelow s p ∨ world.Below s sub ∧ world.Below parent p := by
    induction h with
    | single edge =>
      rcases (up _ _).mp edge with edge | ⟨rfl, rfl⟩
      · exact .inl (.single edge)
      · exact .inr ⟨.refl, .refl⟩
    | tail _ edge ih =>
      rcases (up _ _).mp edge with edge | ⟨rfl, rfl⟩
      · exact ih.imp (.tail · edge) fun ⟨below, above⟩ => ⟨below, above.tail edge⟩
      · exact .inr ⟨ih.elim Relation.TransGen.to_reflTransGen And.left, .refl⟩
  refine ⟨fun s p => ?_, fun k cycle => ?_⟩
  · rw [JustBelow, up, down, hierarchy.mirrored, JustBelow]
  · rcases way cycle with old | ⟨below, above⟩
    · exact hierarchy.acyclic k old
    · exact free (above.trans below)

/-- The edge between two kinds, put in at both ends. -/
theorem isHierarchy_addEdge (hierarchy : world.IsHierarchy) (subHeld : world.Holds (.kind sub))
    (parentHeld : world.Holds (.kind parent)) (free : ¬world.Below parent sub) :
    ((world.modifyKind sub fun k => { k with superkinds := k.superkinds ++ [parent] }).modifyKind
      parent fun k => { k with subkinds := k.subkinds ++ [sub] }).IsHierarchy := by
  have apart : sub ≠ parent := fun same => free (same ▸ .refl)
  simp only [Holds] at subHeld parentHeld
  refine isHierarchy_of_edge hierarchy (fun s p => ?_) (fun s p => ?_) free
  all_goals
    simp only [kind_modifyKind, size_modifyKind]
    grind

theorem lexicon_addWayOf : (world.addWayOf a b).lexicon = world.lexicon := by
  rw [addWayOf]
  split_ifs <;> rfl

theorem kinds_addWayOf : (world.addWayOf a b).kinds = world.kinds := by
  rw [addWayOf]
  split_ifs <;> rfl

theorem superspecies_addExclusion (v : Id .verb) :
    ((world.addExclusion a b).verb v).superspecies = (world.verb v).superspecies := by
  simp only [addExclusion, verb_modifyVerb]
  split_ifs <;> rfl

theorem subspecies_addExclusion (v : Id .verb) :
    ((world.addExclusion a b).verb v).subspecies = (world.verb v).subspecies := by
  simp only [addExclusion, verb_modifyVerb]
  split_ifs <;> rfl

theorem isReciprocal_addExclusion (reciprocal : world.IsReciprocal)
    (aHeld : world.Holds (.verb a)) (bHeld : world.Holds (.verb b)) (apart : a ≠ b) :
    (world.addExclusion a b).IsReciprocal := by
  have exclusions (v w : Id .verb) : w ∈ ((world.addExclusion a b).verb v).exclusions ↔
      w ∈ (world.verb v).exclusions ∨ v = a ∧ w = b ∨ v = b ∧ w = a := by
    simp only [Holds] at aHeld bHeld
    simp only [addExclusion, verb_modifyVerb, size_modifyVerb]
    grind [mem_adjoin]
  refine ⟨fun v w mem => ?_, fun v mem => ?_, fun v way mem => ?_⟩
  · have := reciprocal.mem_exclusions v w
    grind
  · have := reciprocal.notMem_exclusions v
    grind
  · rw [superspecies_addExclusion]
    exact reciprocal.mem_superspecies v way (subspecies_addExclusion v ▸ mem)

theorem isReciprocal_addWayOf (reciprocal : world.IsReciprocal) (aHeld : world.Holds (.verb a))
    (bHeld : world.Holds (.verb b)) : (world.addWayOf a b).IsReciprocal := by
  rw [addWayOf]
  split_ifs
  · exact reciprocal
  generalize result : World.modifyVerb _ _ _ = world'
  have exclusions (v : Id .verb) : (world'.verb v).exclusions = (world.verb v).exclusions := by
    simp only [← result, verb_modifyVerb]
    split_ifs <;> rfl
  have superspecies (v w : Id .verb) : w ∈ (world'.verb v).superspecies ↔
      w ∈ (world.verb v).superspecies ∨ v = a ∧ w = b := by
    simp only [Holds] at aHeld bHeld
    simp only [← result, verb_modifyVerb, size_modifyVerb]
    grind
  have subspecies (v w : Id .verb) : w ∈ (world'.verb v).subspecies ↔
      w ∈ (world.verb v).subspecies ∨ v = b ∧ w = a := by
    simp only [Holds] at aHeld bHeld
    simp only [← result, verb_modifyVerb, size_modifyVerb]
    grind
  refine ⟨?_, ?_, fun v way mem => ?_⟩
  · simpa only [exclusions] using reciprocal.mem_exclusions
  · simpa only [exclusions] using reciprocal.notMem_exclusions
  · have := reciprocal.mem_superspecies v way
    grind

end World

end Worldsmith
