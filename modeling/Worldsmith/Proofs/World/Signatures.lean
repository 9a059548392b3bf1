import Worldsmith.Proofs.World.Closure
import Worldsmith.Proofs.World.Growth

/-!
# What verbs can relate

The subject and the object of a verb are each of one kind. When the verb is said to relate members
of another kind too, the least kind above both takes its place. What the verb was said to relate
before stays below that kind while the hierarchy grows.

## Main definitions

* `World.IsLeastAbove` — a kind is above two kinds, and below all other kinds above both.
* `World.Spans` — the kinds of a verb's subject and object are at or above two kinds.
* `World.Widens` — kinds are below each other, and spanned by verbs, as they are in another world.

## Main statements

* `World.leastUpperBound?_eq_some_iff` — `leastUpperBound?` finds the least kind above two kinds.
* `World.leastUpperBound_signatures` — verbs span all that they have been said to relate.
-/

namespace Worldsmith

namespace World

variable {world later last : World} {kind a b least : Id .kind} {kinds : List (Id .kind)}

/-! ## Least kinds -/

/-- Whether a kind is at or above two kinds, and at or below all kinds that are. -/
structure IsLeastAbove (world : World) (least a b : Id .kind) : Prop where
  left : world.Below a least
  right : world.Below b least
  least : ∀ kind, world.Below a kind → world.Below b kind → world.Below least kind

theorem IsLeastAbove.symm (h : world.IsLeastAbove least a b) : world.IsLeastAbove least b a :=
  ⟨h.right, h.left, fun kind below below' => h.least kind below' below⟩

theorem isLeastAbove_comm : world.IsLeastAbove least a b ↔ world.IsLeastAbove least b a :=
  ⟨.symm, .symm⟩

theorem isLeastAbove_of_below (h : world.Below a b) : world.IsLeastAbove b a b :=
  ⟨h, .refl, fun _ _ below => below⟩

theorem IsHierarchy.below_antisymm (h : world.IsHierarchy) (up : world.Below a b)
    (down : world.Below b a) : a = b := by
  rcases Relation.reflTransGen_iff_eq_or_transGen.mp up with same | way
  · exact same.symm
  · exact absurd (way.trans_left down) (h.acyclic a)

theorem IsLeastAbove.unique (h : world.IsHierarchy) (one : world.IsLeastAbove least a b)
    (other : world.IsLeastAbove kind a b) : least = kind :=
  h.below_antisymm (one.least kind other.left other.right)
    (other.least least one.left one.right)

/-- Just one of some kinds has no other below it if and only if it is below them all. -/
theorem minimal_eq_singleton_iff (h : world.IsHierarchy) (least : Id .kind)
    (nodup : kinds.Nodup) :
    (kinds.filter fun kind => !kinds.any (world.isAbove kind)) = [least] ↔
      least ∈ kinds ∧ ∀ kind ∈ kinds, world.Below least kind := by
  generalize minimal_eq : (kinds.filter fun kind => !kinds.any (world.isAbove kind)) = minimal
  have mem_minimal (kind : Id .kind) : kind ∈ minimal ↔ kind ∈ world.mostSpecific kinds := by
    rw [mostSpecific, List.mem_eraseDups, minimal_eq]
  constructor
  · rintro rfl
    refine ⟨((mem_mostSpecific_iff h).mp ((mem_minimal least).mp (by simp))).1, ?_⟩
    intro kind mem
    obtain ⟨lowest, found, below⟩ := exists_mem_mostSpecific h mem
    obtain rfl := List.mem_singleton.mp ((mem_minimal lowest).mpr found)
    exact below
  · rintro ⟨inside, below⟩
    have only (kind : Id .kind) : kind ∈ minimal ↔ kind ∈ [least] := by
      rw [mem_minimal, mem_mostSpecific_iff h, List.mem_singleton]
      constructor
      · rintro ⟨mem, lowest⟩
        exact (lowest least inside (below kind mem)).symm
      · rintro rfl
        exact ⟨inside, fun other mem under => h.below_antisymm under (below other mem)⟩
    have nodup : minimal.Nodup := minimal_eq ▸ nodup.filter _
    exact List.perm_singleton.mp
      ((List.perm_ext_iff_of_nodup nodup (List.nodup_singleton least)).mpr only)

/-- The kind that is found above two kinds is the least one there is. -/
theorem leastUpperBound?_eq_some_iff (h : world.IsHierarchy) :
    world.leastUpperBound? a b = some least ↔ world.IsLeastAbove least a b := by
  have of_least {kind : Id .kind} (known : world.IsLeastAbove kind a b) :
      some kind = some least ↔ world.IsLeastAbove least a b := by
    rw [Option.some.injEq]
    exact ⟨fun same => same ▸ known, fun other => known.unique h other⟩
  unfold leastUpperBound?
  split_ifs with left right
  · exact of_least (isLeastAbove_of_below ((isA_iff_below h).mp left))
  · exact of_least (isLeastAbove_of_below ((isA_iff_below h).mp right)).symm
  · dsimp only
    generalize common_eq : (world.ancestors a).filter (world.ancestors b).contains = common
    have mem_common (kind : Id .kind) :
        kind ∈ common ↔ world.Below a kind ∧ world.Below b kind := by
      rw [← common_eq, List.mem_filter, List.contains_iff_mem, mem_ancestors_iff h,
        mem_ancestors_iff h]
    have nodup : common.Nodup :=
      common_eq ▸ (nodup_spread _ (List.nodup_singleton a)).filter _
    have single (kind : Id .kind) := minimal_eq_singleton_iff h kind nodup
    have lowest : world.IsLeastAbove least a b ↔
        least ∈ common ∧ ∀ kind ∈ common, world.Below least kind := by
      simp only [mem_common]
      exact ⟨fun known => ⟨⟨known.left, known.right⟩, fun kind below =>
          known.least kind below.1 below.2⟩,
        fun ⟨above, below⟩ => ⟨above.1, above.2, fun kind left right => below kind ⟨left, right⟩⟩⟩
    rw [lowest, ← single]
    split
    · rename_i found only
      rw [only, Option.some.injEq, List.cons.injEq, and_iff_left rfl]
    · rename_i several
      exact ⟨nofun, fun only => absurd only (several least)⟩

theorem leastUpperBound?_comm (h : world.IsHierarchy) (a b : Id .kind) :
    world.leastUpperBound? a b = world.leastUpperBound? b a := by
  refine Option.ext fun least => ?_
  rw [leastUpperBound?_eq_some_iff h, leastUpperBound?_eq_some_iff h, isLeastAbove_comm]

/-! ## What a verb spans -/

/-- Whether the kinds of a verb's subject and object are at or above two kinds. -/
structure Spans (world : World) (verb : Id .verb) (subject object : Id .kind) : Prop where
  subject : ∃ kind, (world.verb verb).subjectKind = some kind ∧ world.Below subject kind
  object : ∃ kind, (world.verb verb).objectKind = some kind ∧ world.Below object kind

/-- Whether kinds are below each other, and spanned by verbs, as they are in another world. -/
structure Widens (world later : World) : Prop where
  grows : world.Grows later
  hierarchy : later.IsHierarchy
  below : ∀ a b, world.Below a b → later.Below a b
  spans : ∀ verb subject object, world.Spans verb subject object →
    later.Spans verb subject object

theorem IsHierarchy.widens (h : world.IsHierarchy) : world.Widens world :=
  ⟨grows_self world, h, fun _ _ => id, fun _ _ _ => id⟩

theorem Widens.trans (h : world.Widens later) (g : later.Widens last) : world.Widens last where
  grows := h.grows.trans g.grows
  hierarchy := g.hierarchy
  below a b below := g.below a b (h.below a b below)
  spans verb subject object spans := g.spans verb subject object (h.spans verb subject object spans)

end World

/-! ## Edges and signatures -/

/-- An edge between kinds, or what a verb relates, as it is said. -/
inductive Assertion where
  | superkind (sub parent : Id .kind)
  | signature (verb : Id .verb) (subject object : Id .kind)
  deriving DecidableEq, Repr

namespace Assertion

def edit : Assertion → Edit Unit
  | .superkind sub parent => Edit.declareSuperkind sub parent
  | .signature verb subject object => Edit.declareSignature verb subject object

/-- Whether all that is spoken of is in the world. -/
def IsIn (world : World) : Assertion → Prop
  | .superkind sub parent => world.Owns sub ∧ world.Owns parent
  | .signature verb subject object =>
    world.Owns verb ∧ world.Owns subject ∧ world.Owns object

variable {world later : World}

theorem IsIn.mono {assertion : Assertion} (isIn : assertion.IsIn world)
    (grows : world.Grows later) : assertion.IsIn later := by
  cases assertion with
  | superkind => exact ⟨isIn.1.mono grows, isIn.2.mono grows⟩
  | signature => exact ⟨isIn.1.mono grows, isIn.2.1.mono grows, isIn.2.2.mono grows⟩

end Assertion

namespace World

variable {world : World} {sub parent subject object : Id .kind} {verb : Id .verb}
  {existing : Option (Id .kind)} {proposed : Id .kind}

/-- The world after something has been said in it. -/
def hear (world : World) (assertion : Assertion) : World := (assertion.edit.perform world).2

/-- The world after things have been said in it, one after another. -/
def hearAll (world : World) (assertions : List Assertion) : World := assertions.foldl hear world

/-- Whether what is said in a world is accepted there. -/
def Accepts (world : World) (assertion : Assertion) : Prop :=
  (assertion.edit.perform world).1 = .ok ()

instance (assertion : Assertion) : Decidable (world.Accepts assertion) :=
  match outcome : (assertion.edit.perform world).1 with
  | .ok () => .isTrue outcome
  | .error _ => .isFalse fun accepted => nomatch outcome.symm.trans accepted

/-! ### Steps -/

/-- The world with an edge between two kinds, at both ends. -/
def addEdge (world : World) (sub parent : Id .kind) : World :=
  (world.modifyKind sub fun k => { k with superkinds := k.superkinds ++ [parent] }).modifyKind
    parent fun k => { k with subkinds := k.subkinds ++ [sub] }

/-- An edge is refused, known or new. -/
theorem perform_declareSuperkind (world : World) (sub parent : Id .kind) :
    (∃ error, (Edit.declareSuperkind sub parent).perform world = (.error error, world)) ∨
    (Edit.declareSuperkind sub parent).perform world = (.ok (), world) ∨
    world.isA parent sub = false ∧ (Edit.declareSuperkind sub parent).perform world =
      (.ok (), world.addEdge sub parent) := by
  rw [Edit.declareSuperkind, Edit.perform_bind, Edit.perform_get]
  dsimp only
  split_ifs with above new
  · exact .inl ⟨_, rfl⟩
  · exact .inr (.inr ⟨by simpa using above, rfl⟩)
  · exact .inr (.inl rfl)

/-- A verb's kind is widened to one above what it was and above what is proposed, or it cannot be.
The world stays as it is. -/
theorem perform_widen (world : World) (verb : Id .verb) (existing : Option (Id .kind))
    (proposed : Id .kind) :
    (∃ error, (Edit.widen verb existing proposed).perform world = (.error error, world)) ∨
    ∃ kind, (Edit.widen verb existing proposed).perform world = (.ok kind, world) ∧
      world.Below proposed kind ∧ ∀ known ∈ existing, world.Below known kind := by
  cases existing with
  | none => exact .inr ⟨proposed, rfl, .refl, nofun⟩
  | some existing =>
    rw [Edit.widen, Edit.perform_bind, Edit.perform_get]
    dsimp only
    cases found : world.leastUpperBound? existing proposed with
    | none => exact .inl ⟨_, rfl⟩
    | some kind =>
      obtain ⟨known, new⟩ := below_of_leastUpperBound? found
      exact .inr ⟨kind, rfl, new, by simpa using known⟩

/-- A signature is refused, or both of the verb's kinds are widened. -/
theorem perform_declareSignature (world : World) (verb : Id .verb)
    (subject object : Id .kind) :
    (∃ error, (Edit.declareSignature verb subject object).perform world =
      (.error error, world)) ∨
    ∃ subject' object', (Edit.declareSignature verb subject object).perform world =
      (.ok (), world.modifyVerb verb fun v =>
        { v with subjectKind := some subject', objectKind := some object' }) ∧
      (world.Below subject subject' ∧
        ∀ known ∈ (world.verb verb).subjectKind, world.Below known subject') ∧
      (world.Below object object' ∧
        ∀ known ∈ (world.verb verb).objectKind, world.Below known object') := by
  rw [Edit.declareSignature, Edit.perform_bind, Edit.perform_get]
  dsimp only
  rw [Edit.perform_bind]
  rcases perform_widen world verb (world.verb verb).subjectKind subject with
    ⟨error, refused⟩ | ⟨subject', widened, below⟩
  · exact .inl ⟨error, by rw [refused]⟩
  · rw [widened]
    dsimp only
    rw [Edit.perform_bind]
    rcases perform_widen world verb (world.verb verb).objectKind object with
      ⟨error, refused⟩ | ⟨object', widened', below'⟩
    · exact .inl ⟨error, by rw [refused]⟩
    · rw [widened']
      exact .inr ⟨subject', object', rfl, below, below'⟩

/-- What is not accepted changes nothing. -/
theorem hear_of_not_accepts {assertion : Assertion} (refused : ¬world.Accepts assertion) :
    world.hear assertion = world := by
  unfold Accepts at refused
  unfold hear
  cases assertion with
  | superkind sub parent =>
    simp only [Assertion.edit] at refused ⊢
    rcases perform_declareSuperkind world sub parent with
      ⟨error, made⟩ | made | ⟨-, made⟩ <;> simp_all
  | signature verb subject object =>
    simp only [Assertion.edit] at refused ⊢
    rcases perform_declareSignature world verb subject object with
      ⟨error, made⟩ | ⟨_, _, made, -⟩ <;> simp_all

theorem justBelow_addEdge {s p : Id .kind} (edge : world.JustBelow s p) :
    (world.addEdge sub parent).JustBelow s p := by
  simp only [JustBelow, addEdge, kind_modifyKind] at edge ⊢
  grind

theorem widens_addEdge (h : world.IsHierarchy) (subOwned : world.Owns sub)
    (parentOwned : world.Owns parent) (free : world.isA parent sub = false) :
    world.Widens (world.addEdge sub parent) := by
  have below (a b : Id .kind) (below : world.Below a b) :
      (world.addEdge sub parent).Below a b :=
    Relation.ReflTransGen.mono (fun _ _ => justBelow_addEdge) a b below
  refine ⟨(grows_modifyKind world sub _).trans (grows_modifyKind _ parent _), ?_, below,
    fun verb subject object spans => ?_⟩
  · rw [Bool.eq_false_iff, Ne, isA_iff_below h] at free
    exact isHierarchy_addEdge h subOwned parentOwned free
  · obtain ⟨⟨s, known, under⟩, ⟨o, known', under'⟩⟩ := spans
    exact ⟨⟨s, known, below _ _ under⟩, ⟨o, known', below _ _ under'⟩⟩

theorem widens_modifyVerb (h : world.IsHierarchy)
    (subjects : ∀ known ∈ (world.verb verb).subjectKind, world.Below known subject)
    (objects : ∀ known ∈ (world.verb verb).objectKind, world.Below known object) :
    world.Widens (world.modifyVerb verb fun v =>
      { v with subjectKind := some subject, objectKind := some object }) := by
  refine ⟨grows_modifyVerb world verb _, h.of_kinds_eq rfl, fun a b => id,
    fun other s o ⟨⟨s', known, under⟩, ⟨o', known', under'⟩⟩ => ?_⟩
  by_cases same : verb = other ∧ other.index < world.verbs.size
  · obtain ⟨rfl, inside⟩ := same
    constructor
    · exact ⟨subject, by rw [verb_modifyVerb, if_pos ⟨rfl, inside⟩],
        under.trans (subjects s' known)⟩
    · exact ⟨object, by rw [verb_modifyVerb, if_pos ⟨rfl, inside⟩],
        under'.trans (objects o' known')⟩
  · constructor
    · exact ⟨s', by rw [verb_modifyVerb, if_neg same, known], under⟩
    · exact ⟨o', by rw [verb_modifyVerb, if_neg same, known'], under'⟩

/-- Whatever is said, nothing that a verb spans is lost. -/
theorem widens_hear (h : world.IsHierarchy) {assertion : Assertion}
    (isIn : assertion.IsIn world) : world.Widens (world.hear assertion) := by
  unfold hear
  cases assertion with
  | superkind sub parent =>
    simp only [Assertion.edit]
    rcases perform_declareSuperkind world sub parent with
      ⟨error, made⟩ | made | ⟨free, made⟩
    · exact made ▸ h.widens
    · exact made ▸ h.widens
    · exact made ▸ widens_addEdge h isIn.1 isIn.2 free
  | signature verb subject object =>
    simp only [Assertion.edit]
    rcases perform_declareSignature world verb subject object with
      ⟨error, made⟩ | ⟨subject', object', made, ⟨-, subjects⟩, ⟨-, objects⟩⟩
    · exact made ▸ h.widens
    · exact made ▸ widens_modifyVerb h subjects objects

/-- A verb spans what it has just been said to relate. -/
theorem spans_hear (owned : world.Owns verb)
    (accepted : world.Accepts (.signature verb subject object)) :
    (world.hear (.signature verb subject object)).Spans verb subject object := by
  unfold Accepts at accepted
  unfold hear
  simp only [Assertion.edit] at accepted ⊢
  rcases perform_declareSignature world verb subject object with
    ⟨error, made⟩ | ⟨subject', object', made, ⟨below, -⟩, ⟨below', -⟩⟩
  · rw [made] at accepted
    cases accepted
  · rw [made]
    constructor
    · exact ⟨subject', by rw [verb_modifyVerb, if_pos ⟨rfl, owned⟩], below⟩
    · exact ⟨object', by rw [verb_modifyVerb, if_pos ⟨rfl, owned⟩], below'⟩

/-! ### Runs -/

theorem widens_hearAll (h : world.IsHierarchy) {assertions : List Assertion}
    (isIn : ∀ assertion ∈ assertions, assertion.IsIn world) :
    world.Widens (world.hearAll assertions) := by
  induction assertions generalizing world with
  | nil => exact h.widens
  | cons assertion rest ih =>
    obtain ⟨first, others⟩ := List.forall_mem_cons.mp isIn
    have step := widens_hear h first
    exact step.trans (ih step.hierarchy fun said mem => (others said mem).mono step.grows)

/-- The kind found above two kinds is the least one, whichever of them comes first. So whatever is
said of edges and of what verbs relate, a verb spans all that it was accepted to relate, and what
is not accepted changes nothing. -/
theorem leastUpperBound_signatures (hierarchy : world.IsHierarchy) :
    (∀ a b least, world.leastUpperBound? a b = some least ↔ world.IsLeastAbove least a b) ∧
    (∀ a b, world.leastUpperBound? a b = world.leastUpperBound? b a) ∧
    ∀ before assertion after, (∀ said ∈ before ++ assertion :: after, said.IsIn world) →
      (∀ verb subject object, assertion = .signature verb subject object →
        (world.hearAll before).Accepts assertion →
        (world.hearAll (before ++ assertion :: after)).Spans verb subject object) ∧
      (¬(world.hearAll before).Accepts assertion →
        (world.hearAll before).hear assertion = world.hearAll before) := by
  refine ⟨fun a b least => leastUpperBound?_eq_some_iff hierarchy,
    leastUpperBound?_comm hierarchy, fun before assertion after isIn => ⟨?_, hear_of_not_accepts⟩⟩
  rintro verb subject object rfl accepted
  obtain ⟨earlier, others⟩ := List.forall_mem_append.mp isIn
  obtain ⟨now, later⟩ := List.forall_mem_cons.mp others
  have reached := widens_hearAll hierarchy earlier
  have step := widens_hear reached.hierarchy (now.mono reached.grows)
  have rest := widens_hearAll step.hierarchy fun said mem =>
    ((later said mem).mono reached.grows).mono step.grows
  have parts : world.hearAll (before ++ .signature verb subject object :: after) =
      ((world.hearAll before).hear (.signature verb subject object)).hearAll after := by
    simp only [hearAll, List.foldl_append, List.foldl_cons]
  rw [parts]
  exact rest.spans verb subject object (spans_hear (now.mono reached.grows).1 accepted)

end World

/-! ## A world to speak of -/

namespace Kennel

def animal : Id .kind := ⟨0⟩

def cat : Id .kind := ⟨1⟩

def dog : Id .kind := ⟨2⟩

def rock : Id .kind := ⟨3⟩

def chase : Id .verb := ⟨0⟩

/-- Cats are animals. Of dogs and rocks nothing is known yet. -/
def world : World := { World.empty with
  kinds := #[
    { Kind.named [.word "animal"] [.word "animals"] with subkinds := [cat] },
    { Kind.named [.word "cat"] [.word "cats"] with superkinds := [animal] },
    .named [.word "dog"] [.word "dogs"],
    .named [.word "rock"] [.word "rocks"]]
  verbs := #[.named [.word "chase"] [.word "chases"] [.word "chasing"]] }

theorem isHierarchy_world : world.IsHierarchy :=
  World.isHierarchy_of_forall_kindIds (by decide) (by decide) (by decide)

/-- Cats chase cats. Once dogs are animals, dogs chase cats too, but rocks do not. -/
theorem spans_world : world.IsHierarchy ∧
    (world.leastUpperBound? cat animal = some animal ↔ world.IsLeastAbove animal cat animal) ∧
    (world.hearAll [.signature chase cat cat, .superkind dog animal, .signature chase dog cat,
      .superkind animal rock]).Spans chase dog cat ∧
    (world.hearAll [.signature chase cat cat]).hear (.signature chase rock cat) =
      world.hearAll [.signature chase cat cat] := by
  obtain ⟨least, -, run⟩ := World.leastUpperBound_signatures isHierarchy_world
  refine ⟨isHierarchy_world, least cat animal animal, ?_, ?_⟩
  · refine (run [.signature chase cat cat, .superkind dog animal] (.signature chase dog cat)
      [.superkind animal rock] ?_).1 chase dog cat rfl (by rfl)
    simp [Assertion.IsIn, World.Owns, World.count, world, chase, cat, dog, animal, rock]
  · refine (run [.signature chase cat cat] (.signature chase rock cat) [] ?_).2 (by decide)
    simp [Assertion.IsIn, World.Owns, World.count, world, chase, cat, rock]

end Kennel

end Worldsmith
