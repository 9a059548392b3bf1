import Worldsmith.Proofs.Blueprint.Work
import Worldsmith.Proofs.World.Closure

/-!
# New beings

A being that is added to a blueprint is declared at once, and so are its parts, whose parts, and so
on. With this all tasks are carried out in full, and so the individuals of the world and the
requested beings are all declared.

## Main statements

* `Blueprint.performs_work` — tasks are carried out in full.
* `Blueprint.Complete` — everything in a blueprint has been written down in full.
-/

namespace Worldsmith

namespace Blueprint

variable {b b' : Blueprint} {i fuel : Nat} {kind : Id .kind} {being : Being}
  {perform : Task → Blueprint → Blueprint}

/-! ## Adding a being -/

theorem being_push_of_lt (hi : i < b.beings.size) :
    Blueprint.being { b with beings := b.beings.push being } i = b.being i := by
  simp [Blueprint.being, Array.getD_eq_getD_getElem?, Array.getElem?_push, Nat.ne_of_lt hi]

theorem being_push_self (b : Blueprint) (being : Being) :
    Blueprint.being { b with beings := b.beings.push being } b.beings.size = being := by
  simp [Blueprint.being, Array.getD_eq_getD_getElem?]

/-- What is true of a new being and of all that were there before is true of all. -/
theorem forall_push {counters : Std.HashMap String Nat} {P : Nat → Being → Prop}
    (old : ∀ i < b.beings.size, P i (b.being i)) (new : P b.beings.size being) :
    ∀ i < (b.beings.push being).size,
      P i (Blueprint.being { b with beings := b.beings.push being, counters := counters } i) := by
  intro i hi
  rw [Array.size_push] at hi
  rcases Nat.lt_succ_iff_lt_or_eq.mp hi with lt | rfl
  · have same : Blueprint.being { b with beings := b.beings.push being, counters := counters } i =
        b.being i := being_push_of_lt lt
    rw [same]
    exact old i lt
  · have same : Blueprint.being { b with beings := b.beings.push being, counters := counters }
        b.beings.size = being := being_push_self b being
    rw [same]
    exact new

theorem extends_push (b : Blueprint) (being : Being) :
    b.Extends { b with beings := b.beings.push being } := by
  refine ⟨rfl, .refl _, ?_, ?_, fun _ => id, fun _ => id⟩
  · rw [Array.size_push]
    exact Nat.le_succ _
  · intro i hi
    rw [being_push_of_lt hi]

theorem Valid.push (valid : b.Valid) (being : Being) :
    Valid { b with beings := b.beings.push being } := by
  have grows := extends_push b being
  refine ⟨valid.built, ?_, ?_, ?_, valid.relations, valid.relationIndex⟩
  · exact fun i kind mem => grows.lt_size (valid.asserted_lt i kind mem)
  · exact fun i kind mem => grows.lt_size (valid.expanded_lt i kind mem)
  · intro i kind mem
    obtain ⟨hi, denies⟩ := valid.excluded i kind mem
    exact ⟨grows.lt_size hi, grows.denies hi denies⟩

/-- A being is there before it is declared, as long as it is declared in the end. -/
theorem Advances.of_push (h : Advances { b with beings := b.beings.push being } b')
    (bare : being.properties = [])
    (kinds : ∀ kind ∈ being.kinds, (b.beings.size, kind) ∈ b'.asserted)
    (modifiers : ∀ trait ∈ being.modifiers, b'.Claims b.beings.size trait) : b.Advances b' := by
  have size : (b.beings.push being).size = b.beings.size + 1 := Array.size_push being
  have new : b.beings.size < (b.beings.push being).size := by omega
  refine ⟨(extends_push b being).trans h.grows, h.valid, h.requested, h.asserted, h.expanded, ?_,
    ?_, h.means⟩
  · intro j hj
    rcases h.declared j hj with lt | declared
    · rw [size] at lt
      rcases Nat.lt_succ_iff_lt_or_eq.mp lt with lt | rfl
      · exact .inl lt
      · refine .inr ⟨?_, ?_⟩
        · rw [h.grows.kinds_eq new, being_push_self]
          exact kinds
        · rw [h.grows.modifiers_eq new, being_push_self]
          exact modifiers
    · exact .inr declared
  · intro j id v mem
    rcases h.served j id v mem with mem | serves
    · have lt := size ▸ lt_size_of_mem_properties mem
      rcases Nat.lt_succ_iff_lt_or_eq.mp lt with lt | rfl
      · rw [being_push_of_lt lt] at mem
        exact .inl mem
      · rw [being_push_self, bare] at mem
        cases mem
    · exact .inr serves

/-! ## Declaring a being -/

theorem Performs.declareAll (performs : Performs fuel perform) (valid : b.Valid)
    (hi : i < b.beings.size) (enough : ∀ kind, b.needed (.declare i kind) ≤ fuel)
    (kinds : List (Id .kind)) (modifiers : List Trait) :
    let b' := Blueprint.declare perform i kinds modifiers b
    b.Advances b' ∧ (∀ kind ∈ kinds, (i, kind) ∈ b'.asserted) ∧
      ∀ trait ∈ modifiers, b'.Claims i trait := by
  obtain ⟨classified, asserted⟩ := Advances.foldl_done kinds
    (fun b kind => (i, kind) ∈ b.asserted) valid (fun _ grows mem => grows.asserted _ mem)
    fun _ h kind _ => performs.later (.declare i kind) hi (enough kind) h
  have hi' := classified.grows.lt_size hi
  obtain ⟨modified, claims⟩ := Advances.foldl_done modifiers (fun b trait => b.Claims i trait)
    classified.valid (fun grows later => later.claims (grows.lt_size hi'))
    fun _ h trait _ => h.valid.assertTrait (h.grows.lt_size hi') trait
  exact ⟨classified.trans modified, fun kind mem => modified.grows.asserted _ (asserted kind mem),
    claims⟩

/-- A new being needs fuel for all kinds and for its parts. -/
theorem needed_push_le (b : Blueprint) (being : Being) (counters : Std.HashMap String Nat)
    (kind : Id .kind) :
    needed { b with beings := b.beings.push being, counters := counters }
        (.declare b.beings.size kind) ≤
      2 * b.world.kinds.size + partFuel b.world being.depth + 2 := by
  have asserted := remaining_le b.world b.asserted b.beings.size
  have expanded := remaining_le b.world b.expanded b.beings.size
  have self : Blueprint.being { b with beings := b.beings.push being, counters := counters }
      b.beings.size = being := being_push_self b being
  rw [needed, self]
  dsimp only
  omega

/-- A new being is declared if there is fuel for all kinds and for its parts. -/
theorem Performs.newBeing (performs : Performs fuel perform) (valid : b.Valid) (being : Being)
    (bare : being.properties = [])
    (enough : 2 * b.world.kinds.size + partFuel b.world being.depth + 2 ≤ fuel) :
    let b' := Blueprint.declare perform b.beings.size being.kinds being.modifiers
      { b with beings := b.beings.push being }
    b.Advances b' ∧ b.beings.size < b'.beings.size ∧
      (b'.being b.beings.size).essence = being.essence := by
  have new : b.beings.size < (b.beings.push being).size := by
    rw [Array.size_push]
    exact Nat.lt_succ_self _
  obtain ⟨h, kinds, modifiers⟩ := performs.declareAll (valid.push being) new
    (fun kind => (needed_push_le b being b.counters kind).trans enough) being.kinds being.modifiers
  refine ⟨.of_push h bare kinds modifiers, h.grows.lt_size new, ?_⟩
  rw [h.grows.essence _ new, being_push_self]

/-- Counting names changes nothing else. -/
theorem Valid.advances_freshName (valid : b.Valid) (kind : Id .kind) :
    b.Advances (b.freshName kind).2 :=
  valid.advances_of_same rfl rfl rfl (fun _ _ => rfl) (.refl _) valid.built rfl rfl
    (fun _ _ => .inl) (fun _ => .inl) (fun _ _ => .inl) (fun _ _ _ => .inl) fun _ => .inl

theorem declaredKinds_singleton (world : World) (kind : Id .kind) :
    declaredKinds world [kind] [] = [kind] :=
  world.mostSpecific_singleton kind

theorem Performs.addBeing (performs : Performs fuel perform) (valid : b.Valid)
    (kinds : List (Id .kind)) (modifiers : List Trait) (container : Option (Nat × Id .part))
    (depth : Nat) (enough : 2 * b.world.kinds.size + partFuel b.world depth + 2 ≤ fuel) :
    let (i, b') := addBeing perform kinds modifiers container depth b
    b.Advances b' ∧ i = b.beings.size ∧ i < b'.beings.size ∧
      (b'.being i).kinds = declaredKinds b.world kinds modifiers ∧
      (b'.being i).modifiers = modifiers := by
  unfold Blueprint.addBeing
  dsimp only
  generalize declaredKinds b.world kinds modifiers = declared
  cases declared with
  | nil =>
    obtain ⟨h, lt, essence⟩ := performs.newBeing valid ⟨"thing" ++ (b.beings.size + 1).repr, [],
      modifiers, none, container, [], [], depth⟩ rfl enough
    exact ⟨h, rfl, lt, congrArg Being.kinds essence, congrArg Being.modifiers essence⟩
  | cons kind rest =>
    have named := valid.advances_freshName kind
    obtain ⟨h, lt, essence⟩ := performs.newBeing named.valid ⟨(b.freshName kind).1, kind :: rest,
      modifiers, none, container, [], [], depth⟩ rfl enough
    exact ⟨named.trans h, rfl, lt, congrArg Being.kinds essence, congrArg Being.modifiers essence⟩

/-! ## All tasks -/

theorem partFuel_of_lt {world : World} {depth : Nat} (shallow : depth < maxPartDepth) :
    partFuel world depth = partFuel world (depth + 1) + (2 * world.kinds.size + 3) := by
  rw [partFuel, partFuel, ← Nat.succ_mul]
  congr 1
  omega

theorem Performs.part (performs : Performs fuel (work fuel)) (valid : b.Valid)
    (shallow : (b.being i).depth < maxPartDepth) (id : Id .part)
    (enough : b.needed (.part i id) ≤ fuel + 1) : b.Advances (work (fuel + 1) (.part i id) b) := by
  rw [work]
  split_ifs with known
  · exact .refl valid
  rw [needed, partFuel_of_lt shallow] at enough
  obtain ⟨h, -⟩ := performs.addBeing valid [(b.world.part id).kind] (b.world.part id).modifiers
    (some (i, id)) ((b.being i).depth + 1) (by omega)
  exact h.trans (h.valid.advances_modifyBeing i (fun _ => rfl) fun _ _ => .inl)

/-- All tasks are carried out in full. -/
theorem performs_work (fuel : Nat) : Performs fuel (work fuel) := by
  induction fuel with
  | zero =>
    intro b task valid admits enough
    cases task with
    | declare i kind => simp [needed] at enough
    | expand i kind => simp [needed] at enough
    | part i id =>
      rw [needed, partFuel_of_lt admits.2] at enough
      omega
  | succ fuel ih =>
    intro b task valid admits enough
    cases task with
    | declare i kind => exact ih.declare valid admits enough
    | expand i kind => exact ih.expand valid admits enough
    | part i id => exact ⟨ih.part valid admits.2 id enough, trivial⟩

theorem le_enoughFuel (world : World) :
    2 * world.kinds.size + partFuel world 0 + 2 ≤ enoughFuel world := by
  simp only [partFuel, enoughFuel, maxPartDepth]
  omega

/-! ## The beings of a request -/

/-- Whether everything in a blueprint has been written down in full. -/
structure Complete (b : Blueprint) : Prop where
  valid : b.Valid
  asserted : ∀ i kind, (i, kind) ∈ b.asserted → b.Asserted i kind
  expanded : ∀ i kind, (i, kind) ∈ b.expanded → b.Expanded i kind
  declared : ∀ i < b.beings.size, b.Declared i
  served : ∀ i id v, (id, v) ∈ (b.being i).properties → b.Serves i id v
  means : ∀ p, b.problem.Has p → b.Means p

theorem Complete.advance (complete : b.Complete) (h : b.Advances b') : b'.Complete where
  valid := h.valid
  asserted i kind mem := (h.asserted i kind mem).elim (fun mem => h.grows.isAsserted
    (complete.valid.asserted_lt i kind mem) (complete.asserted i kind mem)) id
  expanded i kind mem := (h.expanded i kind mem).elim (fun mem => h.grows.isExpanded
    (complete.valid.expanded_lt i kind mem) (complete.expanded i kind mem)) id
  declared i hi := (h.declared i hi).elim (fun lt => h.grows.isDeclared lt
    (complete.declared i lt)) id
  served i id v mem := (h.served i id v mem).elim (fun mem => h.grows.serves
    (lt_size_of_mem_properties mem) (complete.served i id v mem)) fun serves => serves
  means p own := (h.means p own).elim (fun own => h.grows.means (complete.means p own)) id

theorem extends_requested (b : Blueprint) (requested : List Nat) :
    b.Extends { b with requested := requested } :=
  ⟨rfl, .refl _, Nat.le_refl _, fun _ _ => rfl, fun _ => id, fun _ => id⟩

theorem Complete.setRequested (complete : b.Complete) (requested : List Nat) :
    Complete { b with requested := requested } := by
  have grows := b.extends_requested requested
  have valid := complete.valid
  refine ⟨⟨valid.built, valid.asserted_lt, valid.expanded_lt, valid.excluded, valid.relations,
    valid.relationIndex⟩, ?_, ?_, ?_, ?_, fun p own => grows.means (complete.means p own)⟩
  · exact fun i kind mem =>
      grows.isAsserted (valid.asserted_lt i kind mem) (complete.asserted i kind mem)
  · exact fun i kind mem =>
      grows.isExpanded (valid.expanded_lt i kind mem) (complete.expanded i kind mem)
  · exact fun i hi => grows.isDeclared hi (complete.declared i hi)
  · exact fun i id v mem =>
      grows.serves (lt_size_of_mem_properties mem) (complete.served i id v mem)

theorem complete_ofWorld (world : World) : (ofWorld world).Complete := by
  have none (i : Nat) (kind : Id .kind) : (i, kind) ∉ (∅ : Std.HashSet (Nat × Id .kind)) :=
    Std.HashSet.not_mem_empty
  refine ⟨⟨.empty, ?_, ?_, ?_, ?_, ?_⟩, ?_, ?_, ?_, ?_, fun p own => absurd own (Nat.not_lt_zero _)⟩
  · exact fun i kind mem => absurd mem (none i kind)
  · exact fun i kind mem => absurd mem (none i kind)
  · exact fun i kind mem => absurd mem (none i kind)
  · simp [ofWorld]
  · simp [ofWorld]
  · exact fun i kind mem => absurd mem (none i kind)
  · exact fun i kind mem => absurd mem (none i kind)
  · simp [ofWorld]
  · exact fun i id v mem => absurd (lt_size_of_mem_properties mem) (Nat.not_lt_zero i)

theorem Complete.addPermanents (complete : b.Complete) (ids : List (Id .individual)) :
    let b' := ids.foldl (addPermanent (work (enoughFuel b.world))) b
    b'.Complete ∧ b'.world = b.world ∧ b'.requested = b.requested := by
  have h : b.Advances (ids.foldl (addPermanent (work (enoughFuel b.world))) b) :=
    Advances.foldl ids (.refl complete.valid) fun b₁ h id _ => by
      have enough := le_enoughFuel b.world
      have same := h.grows.world
      refine ((performs_work _).newBeing h.valid _ rfl ?_).1
      rw [same]
      exact enough
  exact ⟨complete.advance h, h.grows.world, h.requested⟩

/-- What is requested is added as often as it is requested, each time as a being of its own that has
the requested modifiers. -/
theorem Complete.addRequested (complete : b.Complete) (request : Request) (count : Nat) :
    let b' := addRequested request count b
    b'.Complete ∧ b.Extends b' ∧ ∃ new, b'.requested = b.requested ++ new ∧ new.length = count ∧
      new.Nodup ∧ ∀ i ∈ new, b.beings.size ≤ i ∧ i < b'.beings.size ∧
        (b'.being i).kinds = declaredKinds b.world [request.kind] request.modifiers ∧
        (b'.being i).modifiers = request.modifiers := by
  induction count generalizing b with
  | zero => exact ⟨complete, .refl b, [], by simp [Blueprint.addRequested]⟩
  | succ count ih =>
    have added := (performs_work (enoughFuel b.world)).addBeing complete.valid [request.kind]
      request.modifiers none 0 (le_enoughFuel b.world)
    unfold Blueprint.addRequested
    generalize addBeing (work (enoughFuel b.world)) [request.kind] request.modifiers none 0 b =
      first at added ⊢
    obtain ⟨i, b₁⟩ := first
    obtain ⟨h, rfl, lt, kinds, modifiers⟩ := added
    have same := b₁.extends_requested (b₁.requested ++ [b.beings.size])
    have marked := (complete.advance h).setRequested (b₁.requested ++ [b.beings.size])
    obtain ⟨done, grows, new, requested, length, nodup, each⟩ := ih marked
    refine ⟨done, h.grows.trans (same.trans grows), b.beings.size :: new, ?_, ?_, ?_, ?_⟩
    · rw [requested, h.requested, List.append_assoc, List.singleton_append]
    · rw [List.length_cons, length]
    · refine List.nodup_cons.mpr ⟨fun mem => ?_, nodup⟩
      have le := (each _ mem).1
      exact absurd lt (Nat.not_lt.mpr le)
    · refine List.forall_mem_cons.mpr ⟨⟨Nat.le_refl _, grows.lt_size lt, ?_, ?_⟩, ?_⟩
      · exact (grows.kinds_eq lt).trans kinds
      · exact (grows.modifiers_eq lt).trans modifiers
      · intro j mem
        obtain ⟨le, lt', kinds', modifiers'⟩ := each j mem
        refine ⟨Nat.le_trans h.grows.size_le le, lt', ?_, modifiers'⟩
        rw [kinds', ← h.grows.world]

/-! ## Everything that a being could be -/

namespace Complete

variable {above : Id .kind} (complete : b.Complete) (hi : i < b.beings.size)
include complete hi

/-- A declared kind is asserted with all kinds above it. -/
theorem mem_asserted (mem : kind ∈ (b.being i).kinds) (below : b.world.Below kind above) :
    (i, above) ∈ b.asserted := by
  induction below with
  | refl => exact (complete.declared i hi).kinds kind mem
  | tail _ edge ih => exact (complete.asserted i _ ih).superkinds _ edge

/-- All kinds that a being could be are expanded. -/
theorem mem_expanded_of_couldBe (hierarchy : b.world.IsHierarchy)
    (could : b.couldBe i kind = true) : (i, kind) ∈ b.expanded := by
  refine World.couldBe_induction hierarchy (fun kind => (i, kind) ∈ b.expanded) ?_ ?_ ?_ could
  · intro kind mem
    exact (complete.asserted i kind (complete.mem_asserted hi mem .refl)).expanded
  · intro parent sub mem edge could
    obtain ⟨member, entails⟩ := complete.expanded i parent mem
    exact entails.subkinds sub edge could
  · intro sub parent mem edge
    obtain ⟨member, entails⟩ := complete.expanded i sub mem
    exact entails.superkinds parent edge

/-- Of all kinds that a being could be it is written down what they entail. -/
theorem expanded_of_couldBe (hierarchy : b.world.IsHierarchy) (could : b.couldBe i kind = true) :
    b.Expanded i kind :=
  complete.expanded i kind (complete.mem_expanded_of_couldBe hi hierarchy could)

end Complete

/-- The beings of a request before they are related. -/
def beingsOf (world : World) (request : Request) : Blueprint :=
  addRequested request request.count
    (world.individualIds.foldl (addPermanent (work (enoughFuel world))) (ofWorld world))

theorem complete_beingsOf (world : World) (request : Request) :
    (beingsOf world request).Complete :=
  (((complete_ofWorld world).addPermanents world.individualIds).1.addRequested request
    request.count).1

end Blueprint

end Worldsmith
