import Mathlib.Logic.Function.Iterate
import Mathlib.Order.Lattice.Nat
import Worldsmith.Proofs.World.Closure

/-!
# The order of a hierarchy

The climb of `World.isA`, the searches of `World.ancestors` and `World.descendants` and the
comparisons of `World.mostSpecific` are about one and the same order, in which a kind is below
another if edges lead up from it to the other. The searches go on from the kinds that are pending
in the order in which they were found. So the distances of pending kinds from the start never differ
by more than one, and nearer kinds come first.

## Main definitions

* `World.climbBy` — one step of a climb, whose further steps may have no answer.
* `World.HasWay`, `World.distance` — ways along edges, and the length of the shortest.
* `World.ListsByDistance` — a list holds certain kinds, each once and nearer ones first.
* `World.IsMostSpecific` — a list holds the kinds of another that no other of its kinds is below.

## Main statements

* `World.iterate_climbBy_eq` — a climb never takes more steps than there are kinds.
* `World.order_of_hierarchy` — climbs, searches and comparisons agree on the order of kinds.
-/

namespace Worldsmith

namespace World

variable {world : World} {kind a b : Id .kind} {kinds : List (Id .kind)}

/-! ## Climbing -/

/-- One step of a climb. What the kinds just above answer is left to `above`, which is asked only
where it is needed and may have no answer. -/
def climbBy (world : World) (above : Id .kind → Id .kind → Option Bool) (kind ancestor : Id .kind) :
    Option Bool :=
  if kind = ancestor then some true
  else (world.kind kind).superkinds.anyM (above · ancestor)

theorem below_iff : world.Below a b ↔ a = b ∨ ∃ parent, world.JustBelow a parent ∧
    world.Below parent b :=
  Relation.ReflTransGen.cases_head_iff

theorem isA_eq (h : world.IsHierarchy) (a b : Id .kind) : world.isA a b =
    (a == b || (world.kind a).superkinds.any (world.isA · b)) := by
  rw [Bool.eq_iff_iff, isA_iff_below h, below_iff]
  simp [isA_iff_below h, JustBelow]

theorem anyM_eq_some {α : Type} {f : α → Option Bool} {g : α → Bool} {xs : List α}
    (answers : ∀ x ∈ xs, f x = some (g x)) : xs.anyM f = some (xs.any g) := by
  induction xs with
  | nil => rfl
  | cons x xs ih =>
    obtain ⟨first, rest⟩ := List.forall_mem_cons.mp answers
    cases hx : g x <;> simp [List.anyM, first, hx, ih rest]

/-- A climb has an answer after one step more than there are edges on the longest way up. -/
theorem iterate_climbBy (h : world.IsHierarchy)
    (beyond : Id .kind → Id .kind → Option Bool) {depth : ℕ}
    (short : ∀ way, (a :: way).IsChain world.JustBelow → way.length ≤ depth) :
    world.climbBy^[depth + 1] beyond a b = some (world.isA a b) := by
  induction depth generalizing a with
  | zero =>
    have top : (world.kind a).superkinds = [] := by
      refine List.eq_nil_iff_forall_not_mem.mpr fun parent edge => ?_
      have chain : [a, parent].IsChain world.JustBelow := List.isChain_pair.mpr edge
      simpa using short [parent] chain
    rw [isA_eq h, Function.iterate_one, climbBy, top]
    split_ifs with same <;> simp [same, List.anyM]
  | succ depth ih =>
    have answers : ∀ parent ∈ (world.kind a).superkinds,
        world.climbBy^[depth + 1] beyond parent b = some (world.isA parent b) := by
      refine fun parent edge => ih fun way chain => ?_
      have := short (parent :: way) (List.isChain_cons_cons.mpr ⟨edge, chain⟩)
      simpa using this
    rw [Function.iterate_succ_apply', climbBy, anyM_eq_some answers, isA_eq h]
    split_ifs with same <;> simp [same]

/-- A climb never takes more steps than there are kinds, and one more, so it does not matter what
comes after them. -/
theorem iterate_climbBy_eq (h : world.IsHierarchy) (beyond : Id .kind → Id .kind → Option Bool)
    {depth : ℕ} (enough : world.kinds.size < depth) :
    world.climbBy^[depth] beyond a b = some (world.isA a b) := by
  obtain ⟨n, rfl⟩ := Nat.exists_eq_add_of_lt enough
  exact iterate_climbBy h beyond fun way chain =>
    (h.length_le_of_isChain chain).trans (Nat.le_add_right _ _)

/-! ## Distances -/

section Distance

variable {edges : Id .kind → List (Id .kind)} {start x y : Id .kind} {n rounds : ℕ}
  {done pending : List (Id .kind)}

/-- Whether so many edges lead from a kind to another. -/
def HasWay (edges : Id .kind → List (Id .kind)) : ℕ → Id .kind → Id .kind → Prop
  | 0, start, kind => start = kind
  | n + 1, start, kind => ∃ x, HasWay edges n start x ∧ kind ∈ edges x

/-- The least number of edges that lead from a kind to another. -/
noncomputable def distance (edges : Id .kind → List (Id .kind)) (start kind : Id .kind) : ℕ :=
  sInf {n | HasWay edges n start kind}

theorem distance_le (way : HasWay edges n start kind) : distance edges start kind ≤ n :=
  Nat.sInf_le way

theorem hasWay_distance (way : HasWay edges n start kind) :
    HasWay edges (distance edges start kind) start kind :=
  Nat.sInf_mem (s := {n | HasWay edges n start kind}) ⟨n, way⟩

/-- How far a search has come. Edges from kinds that have been gone on from lead to kinds that have
been found, which stand in the order of their distances, and the distances of those that are pending
differ by one at most. -/
structure Sweep (edges : Id .kind → List (Id .kind)) (start : Id .kind)
    (done pending : List (Id .kind)) : Prop where
  begun : start ∈ done ++ pending
  led : ∀ x ∈ done ++ pending, ∃ n, HasWay edges n start x
  closed : ∀ x ∈ done, ∀ next ∈ edges x, next ∈ done ++ pending
  sorted : (done ++ pending).Pairwise fun x y => distance edges start x ≤ distance edges start y
  close : ∀ x ∈ done ++ pending, ∀ y ∈ pending,
    distance edges start x ≤ distance edges start y + 1

namespace Sweep

/-- What is found later is farther than the next kind that is gone on from. -/
theorem mem_of_hasWay (sweep : Sweep edges start done (kind :: pending))
    (way : HasWay edges n start x) (near : n ≤ distance edges start kind) :
    x ∈ done ++ kind :: pending := by
  induction n generalizing x with
  | zero => exact way ▸ sweep.begun
  | succ n ih =>
    obtain ⟨y, before, edge⟩ := way
    rcases List.mem_append.mp (ih before (by omega)) with mem | mem
    · exact sweep.closed y mem x edge
    · -- a kind that is still pending is not as near as this one
      have nearest := (List.pairwise_append.mp sweep.sorted).2.1
      have far : distance edges start kind ≤ distance edges start y := by
        rcases List.mem_cons.mp mem with rfl | mem
        · exact le_rfl
        · exact (List.pairwise_cons.mp nearest).1 y mem
      have := distance_le before
      omega

/-- What a kind adds to those that have been found is one edge farther than the kind. -/
theorem distance_fresh (sweep : Sweep edges start done (kind :: pending))
    (new : x ∈ fresh edges kind (done ++ kind :: pending)) :
    (∃ n, HasWay edges n start x) ∧
      distance edges start x = distance edges start kind + 1 := by
  obtain ⟨edge, unknown⟩ := mem_fresh_iff.mp new
  obtain ⟨n, way⟩ := sweep.led kind (by simp)
  have next : HasWay edges (distance edges start kind + 1) start x :=
    ⟨kind, hasWay_distance way, edge⟩
  refine ⟨⟨_, next⟩, Nat.le_antisymm (distance_le next) ?_⟩
  by_contra near
  exact unknown (sweep.mem_of_hasWay (hasWay_distance next) (by omega))

theorem step (sweep : Sweep edges start done (kind :: pending)) :
    Sweep edges start (done ++ [kind])
      (pending ++ fresh edges kind (done ++ kind :: pending)) := by
  have later := List.pairwise_cons.mp (List.pairwise_append.mp sweep.sorted).2.1
  have farther : ∀ y ∈ pending ++ fresh edges kind (done ++ kind :: pending),
      distance edges start kind ≤ distance edges start y := by
    intro y mem
    rcases List.mem_append.mp mem with mem | mem
    · exact later.1 y mem
    · rw [(sweep.distance_fresh mem).2]
      exact Nat.le_succ _
  have nearer : ∀ x ∈ done ++ kind :: pending,
      distance edges start x ≤ distance edges start kind + 1 :=
    fun x mem => sweep.close x mem kind List.mem_cons_self
  constructor <;> rw [append_fresh]
  case begun => exact List.mem_append_left _ sweep.begun
  case led =>
    intro x mem
    rcases List.mem_append.mp mem with mem | mem
    · exact sweep.led x mem
    · exact (sweep.distance_fresh mem).1
  case closed => exact closed_append_fresh sweep.closed
  case sorted =>
    refine List.pairwise_append.mpr ⟨sweep.sorted, ?_, fun x old y new => ?_⟩
    · refine List.pairwise_of_forall_mem_list fun x hx y hy => ?_
      rw [(sweep.distance_fresh hx).2, (sweep.distance_fresh hy).2]
    · rw [(sweep.distance_fresh new).2]
      exact nearer x old
  case close =>
    intro x mem y after
    have := farther y after
    rcases List.mem_append.mp mem with mem | mem
    · exact (nearer x mem).trans (Nat.succ_le_succ this)
    · rw [(sweep.distance_fresh mem).2]
      exact Nat.succ_le_succ this

theorem single (edges : Id .kind → List (Id .kind)) (start : Id .kind) :
    Sweep edges start [] [start] where
  begun := by simp
  led := by simpa using ⟨0, rfl⟩
  closed := by simp
  sorted := by simp
  close := by simp

/-- A search lists nearer kinds first. -/
theorem sorted_spread (sweep : Sweep edges start done pending) :
    (spread edges rounds pending (done ++ pending)).Pairwise fun x y =>
      distance edges start x ≤ distance edges start y := by
  induction rounds generalizing done pending with
  | zero => simpa [spread] using sweep.sorted
  | succ rounds ih =>
    cases pending with
    | nil => simpa [spread] using sweep.sorted
    | cons kind pending =>
      rw [spread_cons, ← append_fresh]
      exact ih sweep.step

end Sweep

/-- Whether a list holds just the kinds that something is true of, each once and the nearer ones
first, and is found in however many rounds there are beyond one for each kind. -/
structure ListsByDistance (world : World) (edges : Id .kind → List (Id .kind)) (start : Id .kind)
    (among : Id .kind → Bool) (kinds : List (Id .kind)) : Prop where
  mem_iff : ∀ kind, kind ∈ kinds ↔ among kind = true
  nodup : kinds.Nodup
  sorted : kinds.Pairwise fun x y => distance edges start x ≤ distance edges start y
  found : ∀ rounds, world.kinds.size < rounds → spread edges rounds [start] [start] = kinds

theorem listsByDistance_ancestors (h : world.IsHierarchy) (kind : Id .kind) :
    world.ListsByDistance (fun k => (world.kind k).superkinds) kind (world.isA kind ·)
      (world.ancestors kind) where
  mem_iff other := by rw [mem_ancestors_iff h, isA_iff_below h]
  nodup := nodup_spread _ (List.nodup_singleton kind)
  sorted := (Sweep.single _ kind).sorted_spread
  found _ := spread_eq_of_size_lt fun _ _ edge => h.lt_size edge

theorem listsByDistance_descendants (h : world.IsHierarchy) (kind : Id .kind) :
    world.ListsByDistance (fun k => (world.kind k).subkinds) kind (world.isA · kind)
      (world.descendants kind) where
  mem_iff other := by rw [mem_descendants_iff h, isA_iff_below h]
  nodup := nodup_spread _ (List.nodup_singleton kind)
  sorted := (Sweep.single _ kind).sorted_spread
  found _ := spread_eq_of_size_lt fun k next edge =>
    lt_size_of_justBelow ((h.mirrored next k).mp edge)

end Distance

/-! ## The most specific kinds -/

/-- Whether a list holds just those kinds of another that no other of its kinds is below, each once
and in the order in which they come first. -/
structure IsMostSpecific (world : World) (kinds least : List (Id .kind)) : Prop where
  mem_iff : ∀ kind, kind ∈ least ↔
    kind ∈ kinds ∧ ∀ other ∈ kinds, other ≠ kind → ¬ world.Below other kind
  nodup : least.Nodup
  inOrder : least.Pairwise fun x y => kinds.idxOf x < kinds.idxOf y
  covers : ∀ kind ∈ kinds, ∃ lower ∈ least, world.Below lower kind
  idempotent : world.mostSpecific least = least

/-- Among the most specific kinds none is left that another is below. -/
theorem mostSpecific_mostSpecific (h : world.IsHierarchy) (kinds : List (Id .kind)) :
    world.mostSpecific (world.mostSpecific kinds) = world.mostSpecific kinds := by
  have all : ∀ kind ∈ world.mostSpecific kinds,
      (!(world.mostSpecific kinds).any (world.isAbove kind)) = true := by
    intro kind mem
    rw [Bool.not_eq_true', List.any_eq_false]
    intro other among above
    obtain ⟨apart, below⟩ : other ≠ kind ∧ world.Below other kind := by
      simpa [isAbove, isA_iff_below h] using above
    exact apart (((mem_mostSpecific_iff h).mp mem).2 other ((mem_mostSpecific_iff h).mp among).1
      below)
  conv_lhs => rw [mostSpecific, List.filter_eq_self.mpr all]
  exact eraseDups_eq_self (world.nodup_mostSpecific kinds)

theorem isMostSpecific_mostSpecific (h : world.IsHierarchy) (kinds : List (Id .kind)) :
    world.IsMostSpecific kinds (world.mostSpecific kinds) where
  mem_iff kind := by
    rw [mem_mostSpecific_iff h]
    simp only [ne_eq, not_imp_not]
  nodup := world.nodup_mostSpecific kinds
  inOrder := by
    rw [mostSpecific, eraseDups_filter]
    exact (pairwise_idxOf_eraseDups kinds).filter _
  covers _ := exists_mem_mostSpecific h
  idempotent := mostSpecific_mostSpecific h kinds

/-! ## One order -/

/-- Climbing ends and finds just the kinds to which edges lead. Ancestors and descendants are listed
by distance, and the most specific kinds of a list are the lowest. -/
theorem order_of_hierarchy (h : world.IsHierarchy) :
    (∀ a b, (world.isA a b = true ↔ Relation.ReflTransGen world.JustBelow a b) ∧
      ∀ beyond depth, world.kinds.size < depth →
        world.climbBy^[depth] beyond a b = some (world.isA a b)) ∧
    (∀ kind, world.ListsByDistance (fun k => (world.kind k).superkinds) kind (world.isA kind ·)
      (world.ancestors kind)) ∧
    (∀ kind, world.ListsByDistance (fun k => (world.kind k).subkinds) kind (world.isA · kind)
      (world.descendants kind)) ∧
    ∀ kinds, world.IsMostSpecific kinds (world.mostSpecific kinds) :=
  ⟨fun _ _ => ⟨isA_iff_below h, fun beyond _ => iterate_climbBy_eq h beyond⟩,
    listsByDistance_ancestors h, listsByDistance_descendants h, isMostSpecific_mostSpecific h⟩

end World

namespace Cattery

def animal : Id .kind := ⟨0⟩

def pet : Id .kind := ⟨1⟩

def hunter : Id .kind := ⟨2⟩

def cat : Id .kind := ⟨3⟩

/-- Cats are pets and hunters, and both are animals. -/
def world : World := { World.empty with
  kinds := #[
    { Kind.named [.word "animal"] [.word "animals"] with subkinds := [pet, hunter] },
    { Kind.named [.word "pet"] [.word "pets"] with superkinds := [animal], subkinds := [cat] },
    { Kind.named [.word "hunter"] [.word "hunters"] with
      superkinds := [animal], subkinds := [cat] },
    { Kind.named [.word "cat"] [.word "cats"] with superkinds := [pet, hunter] }] }

theorem isHierarchy_world : world.IsHierarchy :=
  World.isHierarchy_of_forall_kindIds (by decide) (by decide) (by decide)

/-- Two ways lead from cats up to animals, which are listed once and last. -/
theorem order_world : world.IsHierarchy ∧
    world.ancestors cat = [cat, pet, hunter, animal] ∧
    world.mostSpecific [animal, hunter, pet, hunter] = [hunter, pet] ∧
    (world.isA cat animal = true ↔ Relation.ReflTransGen world.JustBelow cat animal) ∧
    world.climbBy^[5] (fun _ _ => none) cat animal = some (world.isA cat animal) ∧
    world.ListsByDistance (fun k => (world.kind k).superkinds) cat (world.isA cat ·)
      [cat, pet, hunter, animal] ∧
    world.ListsByDistance (fun k => (world.kind k).subkinds) animal (world.isA · animal)
      (world.descendants animal) ∧
    world.IsMostSpecific [animal, hunter, pet, hunter] [hunter, pet] := by
  obtain ⟨climbs, up, down, least⟩ := World.order_of_hierarchy isHierarchy_world
  have ancestors : world.ancestors cat = [cat, pet, hunter, animal] := by decide
  have lowest : world.mostSpecific [animal, hunter, pet, hunter] = [hunter, pet] := by decide
  exact ⟨isHierarchy_world, ancestors, lowest, (climbs cat animal).1,
    (climbs cat animal).2 _ 5 (by decide), ancestors ▸ up cat, down animal, lowest ▸ least _⟩

end Cattery

end Worldsmith
