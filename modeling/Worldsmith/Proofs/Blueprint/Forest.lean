import Worldsmith.Proofs.Blueprint.Agreement
import Worldsmith.Proofs.Blueprint.Pairs
import Worldsmith.Proofs.World.Closure

/-!
# Beings and their parts are a forest

A kind may have itself as a part, and kinds may be parts of one another. Work on beings comes to an
end all the same, since parts of parts are made no further in than `maxPartDepth`. How many tasks
can be nested is known beforehand, and so nothing that a task would do below that matters.

What comes of it is a forest. Its roots are the individuals of the world and the requested beings,
and everything else is in exactly one place of something that came before it.

## Main definitions

* `Blueprint.Arranged` — what holds of beings and their parts each time one more being is asked for.
* `Blueprint.ofRequestBy` — the blueprint of a request, with all tasks done as told.
* `Blueprint.IsPartForest` — beings and their parts are a forest.

## Main statements

* `Blueprint.partForest_ofRequest` — a request is made into a blueprint within a known number of
  nested tasks, and the beings of this blueprint are a forest.
-/

namespace Worldsmith

namespace Blueprint

variable {b b' : Blueprint} {i : ℕ} {world : World} {being : Being}
  {perform perform' : Task → Blueprint → Blueprint}

/-! ## What holds between tasks -/

/-- Whether each being has been given its parts, each of them once, and is a part of something
itself, unless it is an individual of the world or has been requested. -/
structure Arranged (b : Blueprint) : Prop where
  fits : ∀ i part child, (part, child) ∈ (b.being i).parts → b.FitsInto child i part
  apart : ∀ i, ((b.being i).parts.map Prod.fst).Nodup
  fitted : ∀ i kind, (i, kind) ∈ b.expanded → b.Fitted i kind
  placed : ∀ i < b.beings.size, i ∈ b.requested ∨ (b.being i).permanent ≠ none ∨
    ∃ j part, (part, i) ∈ (b.being j).parts
  depth_le : ∀ i < b.beings.size, (b.being i).depth ≤ maxPartDepth

theorem arranged_ofWorld (world : World) : (ofWorld world).Arranged := by
  have none (i : ℕ) : ((ofWorld world).being i).parts = [] := by
    rw [being_of_size_le (Nat.zero_le i)]
    rfl
  refine ⟨fun i part child mem => ?_, fun i => ?_, fun i kind mem => ?_, nofun, nofun⟩
  · rw [none] at mem
    cases mem
  · rw [none]
    exact List.nodup_nil
  · exact absurd mem Std.HashSet.not_mem_empty

/-- Steps between tasks leave the arrangement as it is. -/
theorem Arranged.still (arranged : b.Arranged) (still : b.Still b') : b'.Arranged where
  fits i part child mem := (arranged.fits i part child (still.parts i ▸ mem)).mono still.survives
  apart i := still.parts i ▸ arranged.apart i
  fitted i kind mem := (arranged.fitted i kind (still.expanded ▸ mem)).mono still.survives
    (still.parts i ▸ List.Subset.refl _)
  placed i lt := by
    have lt' := still.size ▸ lt
    rw [still.requested, still.survives.permanent_eq lt']
    refine (arranged.placed i lt').imp_right fun placed => ?_
    exact placed.imp_right fun ⟨j, part, mem⟩ => ⟨j, part, still.parts j ▸ mem⟩
  depth_le i lt := by
    have lt' := still.size ▸ lt
    exact still.survives.depth_eq lt' ▸ arranged.depth_le i lt'

/-- A new being that is not within another is a root, once its own parts have been made. -/
theorem Arranged.addRoot (arranged : b.Arranged) (brings : b.Brings being b')
    (top : being.depth = 0) (more : List ℕ)
    (root : b.beings.size ∈ more ∨ being.permanent ≠ none) :
    Arranged { b' with requested := b'.requested ++ more } := by
  have fits (j : ℕ) (part : Id .part) (child : ℕ) (mem : (part, child) ∈ (b'.being j).parts) :
      b'.FitsInto child j part := by
    rcases brings.fits j part child mem with mem | fits
    · exact (arranged.fits j part child mem).mono brings.lasts
    · exact fits
  have marked : b'.Survives { b' with requested := b'.requested ++ more } :=
    ⟨rfl, Nat.le_refl _, fun _ _ => rfl, fun _ => id, fun _ => id⟩
  refine ⟨fun j part child mem => (fits j part child mem).mono marked,
    fun j => brings.apart j (arranged.apart j),
    fun j kind mem => Fitted.mono ?_ marked (List.Subset.refl _), fun j lt => ?_, fun j lt => ?_⟩
  · rcases brings.fitted j kind mem with mem | fitted
    · exact (arranged.fitted j kind mem).mono brings.lasts (brings.kept j)
    · exact fitted
  · rcases brings.placed j lt with lt | rfl | placed
    · rcases arranged.placed j lt with mem | known | ⟨k, part, mem⟩
      · exact .inl (List.mem_append_left more (brings.requested ▸ mem))
      · exact .inr (.inl ((brings.lasts.permanent_eq lt).trans_ne known))
      · exact .inr (.inr ⟨k, part, brings.kept k mem⟩)
    · have permanent : (b'.being b.beings.size).permanent = being.permanent :=
        (congrArg Being.permanent brings.essence :)
      exact root.imp (List.mem_append_right _) fun known => .inl (permanent.trans_ne known)
    · exact .inr (.inr placed)
  · rcases brings.placed j lt with lt | rfl | ⟨k, part, mem⟩
    · exact (brings.lasts.depth_eq lt).trans_le (arranged.depth_le j lt)
    · have depth : (b'.being b.beings.size).depth = being.depth :=
        (congrArg Being.depth brings.essence :)
      exact (depth.trans top).trans_le (Nat.zero_le _)
    · have fits := fits k part j mem
      exact fits.depth.trans_le fits.shallow

/-! ## The beings of a request -/

/-- Add so many requested beings, with the work on them done as told. -/
def addRequestedBy (perform : Task → Blueprint → Blueprint) (request : Request) :
    ℕ → Blueprint → Blueprint
  | 0, b => b
  | count + 1, b =>
    let (i, b) := addBeing perform [request.kind] request.modifiers none 0 b
    addRequestedBy perform request count { b with requested := b.requested ++ [i] }

/-- Make a request into a problem, with the work on beings done as told. -/
def ofRequestBy (perform : Task → Blueprint → Blueprint) (world : World) (request : Request) :
    Blueprint :=
  let b := world.individualIds.foldl (addPermanent perform) (ofWorld world)
  (addRequestedBy perform request request.count b).addRelations

section Agree

variable (agree : Agree (enoughFuel world) perform perform') (hierarchy : world.IsHierarchy)
include agree hierarchy

theorem Arranged.addPermanent (arranged : b.Arranged) (same : b.world = world)
    (id : Id .individual) : addPermanent perform b id = addPermanent perform' b id ∧
      (addPermanent perform b id).Arranged ∧ (addPermanent perform b id).world = world := by
  subst same
  let individual := b.world.individual id
  obtain ⟨equal, builds⟩ := agree.declareNew hierarchy ⟨untokenize individual.name,
    individual.kinds, individual.modifiers, some id, none, [], [], 0⟩ b.counters
    individual.modifiers (le_enoughFuel b.world)
  have root := arranged.addRoot (builds.brings rfl) rfl [] (.inr (Option.some_ne_none id))
  rw [List.append_nil] at root
  exact ⟨equal, root, builds.lasts.world⟩

theorem Arranged.addPermanents (arranged : b.Arranged) (same : b.world = world)
    (ids : List (Id .individual)) :
    ids.foldl (Blueprint.addPermanent perform) b = ids.foldl (Blueprint.addPermanent perform') b ∧
      (ids.foldl (Blueprint.addPermanent perform) b).Arranged ∧
      (ids.foldl (Blueprint.addPermanent perform) b).world = world := by
  induction ids generalizing b with
  | nil => exact ⟨rfl, arranged, same⟩
  | cons id ids ih =>
    obtain ⟨equal, arranged, same⟩ := arranged.addPermanent agree hierarchy same id
    rw [List.foldl_cons, List.foldl_cons, ← equal]
    exact ih arranged same

end Agree

theorem Arranged.addRequested {beyond : Task → Blueprint → Blueprint}
    (agree : Agree (enoughFuel world) (work (enoughFuel world)) beyond)
    (hierarchy : world.IsHierarchy) (arranged : b.Arranged) (same : b.world = world)
    (request : Request) (count : ℕ) :
    addRequested request count b = addRequestedBy beyond request count b ∧
      (addRequested request count b).Arranged := by
  induction count generalizing b with
  | zero => exact ⟨rfl, arranged⟩
  | succ count ih =>
    rw [Blueprint.addRequested, addRequestedBy, addBeing_eq, addBeing_eq, same]
    subst same
    obtain ⟨name, counters, shape⟩ := withBeing_eq
      (declaredKinds b.world [request.kind] request.modifiers) request.modifiers none 0 b
    rw [shape]
    obtain ⟨equal, builds⟩ := agree.declareNew hierarchy
      ⟨name, declaredKinds b.world [request.kind] request.modifiers, request.modifiers, none, none,
        [], [], 0⟩ counters request.modifiers (le_enoughFuel b.world)
    have root := arranged.addRoot (builds.brings rfl) rfl [b.beings.size]
      (.inl List.mem_cons_self)
    rw [← equal]
    exact ih root builds.lasts.world

/-! ## Relating the beings -/

theorem still_addPair (id : Id .verb) (verb : Verb) (subjectKind objectKind : Id .kind)
    (subject object : ℕ) (b : Blueprint) :
    b.Still (b.addPair id verb subjectKind objectKind subject object) := by
  unfold addPair
  generalize b.problem.binary (untokenize verb.base) (b.being subject).name (b.being object).name
    verb.symmetric = made
  obtain ⟨p, problem⟩ := made
  have recorded : b.Still { b with
      problem := problem.setPrior p verb.density
      relations := b.relations.push ⟨id, subject, object, p⟩
      relationIndex := b.relationIndex.insert (id, subject, object) p } :=
    ⟨rfl, rfl, fun _ => rfl, fun _ => rfl, rfl, rfl, rfl⟩
  have demanded := quiet_demandPair p.positive verb subjectKind objectKind subject object
  exact recorded.trans (demanded _).still

theorem still_addVerb (b : Blueprint) (id : Id .verb) : b.Still (b.addVerb id) := by
  unfold addVerb
  dsimp only
  split
  case h_2 => exact .refl b
  case h_1 subjectKind objectKind _ _ =>
    generalize b.world.verb id = verb
    have paired := Still.foldl (fun b (pair : ℕ × ℕ) =>
      still_addPair id verb subjectKind objectKind pair.1 pair.2 b)
      (pairs (b.candidates subjectKind) (b.candidates objectKind)) b
    have looped := paired.trans (Quiet.foldl (quiet_addLoop id verb subjectKind objectKind)
      ((b.candidates subjectKind).filter (b.candidates objectKind).contains) _).still
    refine Still.trans ?_ (Quiet.foldl (quiet_addBounds id verb subjectKind
      (b.candidates objectKind)) (b.candidates subjectKind) _).still
    split_ifs
    · exact looped.trans (Quiet.foldl (quiet_addOneWay id) _ _).still
    · exact looped

theorem still_tieVerb (b : Blueprint) (id : Id .verb) : b.Still (b.tieVerb id) := by
  unfold tieVerb
  generalize b.world.verb id = verb
  refine (Quiet.foldl (fun b relation => ?_) _ b).still
  have general := Quiet.foldl (quiet_addGeneral relation)
    (verb.generalizations ++ verb.superspecies) b
  have excluded := general.trans (.foldl (quiet_addExcluded relation) verb.exclusions _)
  exact excluded.trans (quiet_addWays relation verb.subspecies _)

/-- To relate beings is to leave them as they are. -/
theorem still_addRelations (b : Blueprint) : b.Still b.addRelations :=
  (Still.foldl still_addVerb b.world.verbIds b).trans (.foldl still_tieVerb b.world.verbIds _)

/-! ## The forest -/

/-- Whether beings and their parts are a forest. -/
structure IsPartForest (b : Blueprint) : Prop where
  depth_le : ∀ i < b.beings.size, (b.being i).depth ≤ maxPartDepth
  /-- There is one entry for each part that a being could have, if it is not too far in. -/
  entry : ∀ i < b.beings.size, (b.being i).depth < maxPartDepth → ∀ part, b.CouldHave i part →
    ∃ child, (b.being i).parts.filter (·.1 == part) = [(part, child)] ∧ b.FitsInto child i part
  /-- There are no other entries. -/
  only : ∀ i, ∀ entry ∈ (b.being i).parts, b.CouldHave i entry.1
  innermost : ∀ i, (b.being i).depth = maxPartDepth → (b.being i).parts = []
  /-- What has neither been asked for nor is in the world is in one place of one being. -/
  within : ∀ child < b.beings.size, child ∉ b.requested → (b.being child).permanent = none →
    ∃! place : ℕ × Id .part, (place.2, child) ∈ (b.being place.1).parts

/-- When all that beings could be has been written down, they have all parts that they could. -/
theorem Arranged.isPartForest (arranged : b.Arranged) (complete : b.Complete)
    (hierarchy : b.world.IsHierarchy) : b.IsPartForest where
  depth_le := arranged.depth_le
  entry i lt shallow part could := by
    obtain ⟨kind, could, mem⟩ := could
    have expanded := complete.mem_expanded_of_couldBe lt hierarchy could
    obtain ⟨child, made⟩ := (arranged.fitted i kind expanded).made shallow part mem
    exact ⟨child, filter_fst_of_nodup (arranged.apart i) made, arranged.fits i part child made⟩
  only i entry mem := (arranged.fits i entry.1 entry.2 mem).could
  innermost i deepest := by
    refine List.eq_nil_iff_forall_not_mem.mpr fun entry mem => ?_
    exact (arranged.fits i entry.1 entry.2 mem).shallow.ne deepest
  within child lt notRequested new := by
    rcases arranged.placed child lt with mem | known | ⟨i, part, mem⟩
    · exact absurd mem notRequested
    · exact absurd new known
    · refine ⟨(i, part), mem, fun place mem' => ?_⟩
      have here := (arranged.fits i part child mem).container
      rw [(arranged.fits place.1 place.2 child mem').container] at here
      exact Option.some.inj here

theorem arranged_ofRequest {beyond : Task → Blueprint → Blueprint}
    (agree : Agree (enoughFuel world) (work (enoughFuel world)) beyond)
    (hierarchy : world.IsHierarchy) (request : Request) :
    ofRequest world request = ofRequestBy beyond world request ∧
      (ofRequest world request).Arranged := by
  obtain ⟨equal, arranged, same⟩ := (arranged_ofWorld world).addPermanents agree hierarchy rfl
    world.individualIds
  obtain ⟨equal', arranged'⟩ := arranged.addRequested agree hierarchy same request request.count
  refine ⟨?_, arranged'.still (still_addRelations _)⟩
  rw [ofRequest, ofRequestBy, ← equal, ← equal']

/-- However parts are parts of one another, a request is made into a blueprint within a number of
nested tasks that the world tells, whatever is beyond, and its beings are a forest. -/
theorem partForest_ofRequest (hierarchy : world.IsHierarchy) (request : Request) :
    (∀ beyond depth, enoughFuel world ≤ depth →
      ofRequestBy (workBy^[depth] beyond) world request = ofRequest world request) ∧
    (ofRequest world request).IsPartForest := by
  have agree (beyond) := agree_work (enoughFuel world) beyond
  refine ⟨fun beyond depth enough => ?_, ?_⟩
  · obtain ⟨more, rfl⟩ := Nat.exists_eq_add_of_le enough
    rw [Function.iterate_add_apply]
    exact (arranged_ofRequest (agree (workBy^[more] beyond)) hierarchy request).1.symm
  · obtain ⟨complete, same, -⟩ := complete_ofRequest world request
    exact (arranged_ofRequest (agree (fun _ => id)) hierarchy request).2.isPartForest complete
      (same.symm ▸ hierarchy)

end Blueprint

/-! ## Dolls in dolls -/

namespace Dolls

def toy : Id .kind := ⟨0⟩

def doll : Id .kind := ⟨1⟩

/-- Dolls are toys, and each doll has a doll in it. -/
def world : World := { World.empty with
  kinds := #[
    ⟨[.word "toy"], [.word "toys"], [], [doll], [], [], [], [], [], none, none⟩,
    ⟨[.word "doll"], [.word "dolls"], [toy], [], [], [], [], [], [⟨0⟩], none, none⟩]
  parts := #[⟨[.word "inside"], doll, doll, []⟩] }

theorem isHierarchy_world : world.IsHierarchy :=
  World.isHierarchy_of_forall_kindIds (by decide) (by decide) (by decide)

end Dolls

/-- Toys that are asked for are no more than three dolls in one another. -/
theorem Blueprint.partForest_dolls : Dolls.world.IsHierarchy ∧
    (∀ beyond depth, 24 ≤ depth →
      ofRequestBy (workBy^[depth] beyond) Dolls.world ⟨Dolls.toy, [], 2⟩ =
        ofRequest Dolls.world ⟨Dolls.toy, [], 2⟩) ∧
    (ofRequest Dolls.world ⟨Dolls.toy, [], 2⟩).IsPartForest :=
  ⟨Dolls.isHierarchy_world, partForest_ofRequest Dolls.isHierarchy_world ⟨Dolls.toy, [], 2⟩⟩

end Worldsmith
