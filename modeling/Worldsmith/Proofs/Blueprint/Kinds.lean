import Worldsmith.Proofs.Blueprint.Laws
import Worldsmith.Proofs.World.Consistency

/-!
# Kinds of beings

A new being is declared to be of the most specific of some kinds, so that none of its kinds is
below another. An individual of the world is of the kinds that the world says, and these were the
most specific only when it was last said what the individual is.

## Main statements

* `World.eq_of_below_of_mem_mostSpecific` — among the most specific kinds none is below another.
* `Blueprint.kinds_ofRequest` — the kinds of all beings of a request.
-/

namespace Worldsmith

namespace World

variable {world : World} {kinds : List (Id .kind)} {a b : Id .kind}

/-- Among the most specific kinds none is below another. -/
theorem eq_of_below_of_mem_mostSpecific (h : world.IsHierarchy) (ha : a ∈ world.mostSpecific kinds)
    (hb : b ∈ world.mostSpecific kinds) (below : world.Below a b) : a = b := by
  have among := mem_of_mem_mostSpecific ha
  rw [mostSpecific, List.mem_eraseDups, List.mem_filter, Bool.not_eq_true', List.any_eq_false] at hb
  have lowest := hb.2 a among
  rw [isAbove, Bool.and_eq_true, bne_iff_ne, isA_iff_below h] at lowest
  exact by_contra fun apart => lowest ⟨apart, below⟩

end World

namespace Blueprint

variable {world : World} {b b' : Blueprint}

/-- Whether beings are of the most specific of some kinds, or of those of an individual. -/
structure Sorted (world : World) (b : Blueprint) : Prop where
  world_eq : b.world = world
  new : ∀ i < b.beings.size, (b.being i).permanent = none →
    ∃ kinds, (b.being i).kinds = world.mostSpecific kinds
  permanent : ∀ i < b.beings.size, ∀ id, (b.being i).permanent = some id →
    (b.being i).kinds = (world.individual id).kinds

namespace Sorted

theorem of_essence (h : b.Sorted world) (world_eq : b'.world = b.world)
    (size : b'.beings.size = b.beings.size)
    (essence : ∀ i < b.beings.size, (b'.being i).essence = (b.being i).essence) :
    b'.Sorted world := by
  have kinds {i : Nat} (lt : i < b.beings.size) : (b'.being i).kinds = (b.being i).kinds := by
    have same := congrArg Being.kinds (essence i lt)
    exact same
  have permanent {i : Nat} (lt : i < b.beings.size) :
      (b'.being i).permanent = (b.being i).permanent := by
    have same := congrArg Being.permanent (essence i lt)
    exact same
  refine ⟨world_eq.trans h.world_eq, fun i lt none => ?_, fun i lt id known => ?_⟩
  · rw [size] at lt
    rw [permanent lt] at none
    exact kinds lt ▸ h.new i lt none
  · rw [size] at lt
    rw [permanent lt] at known
    exact (kinds lt).trans (h.permanent i lt id known)

theorem push (h : b.Sorted world) (being : Being) (counters : Std.HashMap String Nat)
    (new : being.permanent = none → ∃ kinds, being.kinds = world.mostSpecific kinds)
    (permanent : ∀ id, being.permanent = some id → being.kinds = (world.individual id).kinds) :
    Sorted world { b with beings := b.beings.push being, counters := counters } := by
  refine ⟨h.world_eq, ?_, ?_⟩
  · exact forall_push (P := fun _ x => x.permanent = none →
      ∃ kinds, x.kinds = world.mostSpecific kinds) h.new new
  · exact forall_push (P := fun _ x => ∀ id, x.permanent = some id →
      x.kinds = (world.individual id).kinds) h.permanent permanent

/-- All work on beings leaves them of the kinds that they were declared to be of. -/
theorem isInvariant (world : World) : IsInvariant (Sorted world) where
  keeps kept h := h.of_essence kept.world kept.size fun i _ => kept.essence i
  withBeing kind modifiers container depth h := by
    rename_i b
    have declared : ∃ kinds, declaredKinds b.world [kind] modifiers = world.mostSpecific kinds :=
      ⟨_, by rw [declaredKinds, h.world_eq]⟩
    unfold Blueprint.withBeing
    cases list : declaredKinds b.world [kind] modifiers with
    | nil => exact h.push _ b.counters (fun _ => list ▸ declared) (by simp)
    | cons => exact h.push _ _ (fun _ => list ▸ declared) (by simp)

theorem addPermanents (h : b.Sorted world) (fuel : Nat) (ids : List (Id .individual)) :
    Sorted world (ids.foldl (addPermanent (work fuel)) b) := by
  refine IsInvariant.foldl (fun {b} id (h : b.Sorted world) => ?_) ids h
  unfold addPermanent
  refine (isInvariant world).declare (fun task _ => (isInvariant world).work fuel task) _ _ _ ?_
  refine h.push _ b.counters nofun fun other same => ?_
  obtain rfl := Option.some.inj same
  exact congrArg (fun world => (World.individual world id).kinds) h.world_eq

end Sorted

theorem sorted_beingsOf (world : World) (request : Request) :
    Sorted world (beingsOf world request) := by
  have nothing : Sorted world (ofWorld world) :=
    ⟨rfl, fun i lt => absurd lt (Nat.not_lt_zero i), fun i lt => absurd lt (Nat.not_lt_zero i)⟩
  exact (Sorted.isInvariant world).addRequested (fun _ h => ⟨h.world_eq, h.new, h.permanent⟩)
    request request.count (nothing.addPermanents _ world.individualIds)

theorem sorted_ofRequest (world : World) (request : Request) :
    Sorted world (ofRequest world request) := by
  obtain ⟨relates, -, -⟩ :=
    related_addRelations (complete_beingsOf world request).valid (indexed_beingsOf world request)
  have grows := relates.advances.grows
  exact (sorted_beingsOf world request).of_essence grows.world relates.size grows.essence

/-- In the blueprint of a request about a reachable world no kind of a being is listed twice, none
of a new being's kinds is below another, and an individual of the world is of the kinds that the
world says. -/
theorem kinds_ofRequest (reachable : world.Reachable) (request : Request) (i : Nat)
    (lt : i < (ofRequest world request).beings.size) :
    ((ofRequest world request).being i).kinds.Nodup ∧
      (((ofRequest world request).being i).permanent = none →
        ∀ a ∈ ((ofRequest world request).being i).kinds,
          ∀ b ∈ ((ofRequest world request).being i).kinds, world.Below a b → a = b) ∧
      ∀ id, ((ofRequest world request).being i).permanent = some id →
        ((ofRequest world request).being i).kinds = (world.individual id).kinds := by
  have sorted := sorted_ofRequest world request
  generalize ofRequest world request = b at sorted lt ⊢
  refine ⟨?_, fun none => ?_, sorted.permanent i lt⟩
  · cases known : (b.being i).permanent with
    | none =>
      obtain ⟨kinds, same⟩ := sorted.new i lt known
      exact same ▸ World.nodup_mostSpecific world kinds
    | some id => exact sorted.permanent i lt id known ▸ reachable.isConsistent.nodup_kinds id
  · obtain ⟨kinds, same⟩ := sorted.new i lt none
    rw [same]
    exact fun a ha b hb => World.eq_of_below_of_mem_mostSpecific reachable.isSound.hierarchy ha hb

end Blueprint

end Worldsmith
