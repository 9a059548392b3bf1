import Mathlib.Order.WellFounded
import Worldsmith.Proofs.Lists
import Worldsmith.Proofs.World.Hierarchy

/-!
# Everything below a kind

The search of `World.spread` takes one round for each kind that it finds. As many rounds as there
are kinds, and one more for the kind where it starts, are enough for it to end with a list that no
edge leads out of.

## Main statements

* `World.mem_ancestors_iff`, `World.mem_descendants_iff` — the ancestors of a kind are exactly the
  kinds at or above it, its descendants those at or below it.
* `World.mem_mostSpecific_iff` — the most specific of some kinds are those that no other is below.
* `World.couldBe_iff_below` — something could be of a kind if something at or below one of its
  declared kinds is at or below that kind.
-/

namespace Worldsmith

namespace World

variable {world : World} {kind a b : Id .kind} {declared : List (Id .kind)}

theorem mem_kindIds_iff : kind ∈ world.kindIds ↔ kind.index < world.kinds.size := by
  obtain ⟨i⟩ := kind
  simp [kindIds, Id.upTo]

/-! ## Rounds of a search -/

section Spread

variable {edges : Id .kind → List (Id .kind)} {rounds : Nat}
  {all done pending found : List (Id .kind)}

/-- The kinds to which edges lead from a kind and that have not been found yet. -/
def fresh (edges : Id .kind → List (Id .kind)) (kind : Id .kind) (found : List (Id .kind)) :
    List (Id .kind) :=
  (edges kind).eraseDups.filter fun next => !found.contains next

theorem mem_fresh_iff : a ∈ fresh edges kind found ↔ a ∈ edges kind ∧ a ∉ found := by
  simp [fresh]

theorem spread_cons : spread edges (rounds + 1) (kind :: pending) found =
    spread edges rounds (pending ++ fresh edges kind found)
      (found ++ fresh edges kind found) := rfl

/-- When a kind has been gone on from, its edges lead to kinds that have been found too. -/
theorem closed_append_fresh
    (closed : ∀ x ∈ done, ∀ next ∈ edges x, next ∈ done ++ kind :: pending) :
    ∀ x ∈ done ++ [kind], ∀ next ∈ edges x,
      next ∈ (done ++ kind :: pending) ++ fresh edges kind (done ++ kind :: pending) := by
  intro x mem next edge
  rcases List.mem_append.mp mem with mem | mem
  · exact List.mem_append_left _ (closed x mem next edge)
  · obtain rfl := List.mem_singleton.mp mem
    by_cases old : next ∈ done ++ x :: pending
    · exact List.mem_append_left _ old
    · exact List.mem_append_right _ (mem_fresh_iff.mpr ⟨edge, old⟩)

/-- Whether kinds that have been gone on from and kinds that have not are among all kinds, and none
of them twice. -/
structure Frontier (all done pending : List (Id .kind)) : Prop where
  nodup : (done ++ pending).Nodup
  known : ∀ kind ∈ done ++ pending, kind ∈ all

theorem append_fresh : (done ++ [kind]) ++ (pending ++ fresh edges kind (done ++ kind :: pending)) =
    (done ++ kind :: pending) ++ fresh edges kind (done ++ kind :: pending) := by
  simp

namespace Frontier

theorem step (front : Frontier all done (kind :: pending))
    (inside : ∀ kind, ∀ next ∈ edges kind, next ∈ all) : Frontier all (done ++ [kind])
      (pending ++ fresh edges kind (done ++ kind :: pending)) where
  nodup := by
    rw [append_fresh]
    refine front.nodup.append ((nodup_eraseDups _).filter _) fun next old new => ?_
    exact (mem_fresh_iff.mp new).2 old
  known next mem := by
    rw [append_fresh] at mem
    rcases List.mem_append.mp mem with mem | mem
    · exact front.known next mem
    · exact inside kind next (mem_fresh_iff.mp mem).1

/-- When as many kinds have been gone on from as there are, none is left. -/
theorem eq_nil (front : Frontier all done pending) (enough : all.length ≤ done.length) :
    pending = [] := by
  have fits := (List.subperm_of_subset front.nodup front.known).length_le
  exact List.eq_nil_of_length_eq_zero (by simp at fits; omega)

/-- No edge leads out of what is found. The kinds found so far are those that have been gone on from
and those that have not, in this order. -/
theorem closed_spread (front : Frontier all done pending)
    (inside : ∀ kind, ∀ next ∈ edges kind, next ∈ all) (enough : all.length ≤ done.length + rounds)
    (closed : ∀ kind ∈ done, ∀ next ∈ edges kind, next ∈ done ++ pending) :
    ∀ kind ∈ spread edges rounds pending (done ++ pending), ∀ next ∈ edges kind,
      next ∈ spread edges rounds pending (done ++ pending) := by
  induction rounds generalizing done pending with
  | zero =>
    obtain rfl := front.eq_nil enough
    simpa [spread] using closed
  | succ rounds ih =>
    cases pending with
    | nil => simpa [spread] using closed
    | cons kind pending =>
      rw [spread_cons, ← append_fresh]
      refine ih (front.step inside) (by simp; omega) ?_
      rw [append_fresh]
      exact closed_append_fresh closed

/-- More rounds than enough find nothing more. -/
theorem spread_add (front : Frontier all done pending)
    (inside : ∀ kind, ∀ next ∈ edges kind, next ∈ all) (enough : all.length ≤ done.length + rounds)
    (more : Nat) : spread edges (rounds + more) pending (done ++ pending) =
      spread edges rounds pending (done ++ pending) := by
  induction rounds generalizing done pending with
  | zero =>
    obtain rfl := front.eq_nil enough
    cases more <;> simp [spread]
  | succ rounds ih =>
    cases pending with
    | nil => simp [spread, Nat.add_right_comm]
    | cons kind pending =>
      rw [Nat.add_right_comm, spread_cons, spread_cons, ← append_fresh]
      exact ih (front.step inside) (by simp; omega)

/-- A search begins with one kind. -/
theorem single (kind : Id .kind) (world : World) :
    Frontier (kind :: world.kindIds) [] [kind] where
  nodup := by simp
  known := by simp

end Frontier

end Spread

/-- Edges lead to kinds of the world only. -/
theorem IsHierarchy.lt_size (h : world.IsHierarchy) (edge : world.JustBelow a b) :
    b.index < world.kinds.size :=
  lt_size_of_mem Kind.subkinds rfl ((h.mirrored a b).mpr edge)

/-- From one kind just those kinds are found to which edges lead, by any number of them. -/
theorem mem_spread_iff {edges : Id .kind → List (Id .kind)}
    (inside : ∀ kind, ∀ next ∈ edges kind, next.index < world.kinds.size) :
    a ∈ spread edges (world.kinds.size + 1) [b] [b] ↔
      Relation.ReflTransGen (fun kind next => next ∈ edges kind) b a := by
  constructor
  · refine forall_mem_spread (Relation.ReflTransGen _ b) ?_ _ ?_ ?_ a
    · exact fun kind way next edge => way.tail edge
    · exact fun kind hk => List.mem_singleton.mp hk ▸ .refl
    · exact fun kind hk => List.mem_singleton.mp hk ▸ .refl
  · intro way
    have closed : ∀ kind ∈ spread edges (world.kinds.size + 1) [b] [b], ∀ next ∈ edges kind,
        next ∈ spread edges (world.kinds.size + 1) [b] [b] :=
      (Frontier.single b world).closed_spread
        (fun kind next edge => List.mem_cons_of_mem _ (mem_kindIds_iff.mpr (inside kind next edge)))
        (by simp [kindIds, Id.upTo]) (by simp)
    induction way with
    | refl => exact mem_spread_of_mem _ List.mem_cons_self
    | tail _ edge ih => exact closed _ ih _ edge

/-- More rounds than one for each kind, and one for the kind where a search starts, find nothing
more. -/
theorem spread_eq_of_size_lt {edges : Id .kind → List (Id .kind)}
    (inside : ∀ kind, ∀ next ∈ edges kind, next.index < world.kinds.size) {rounds : Nat}
    (enough : world.kinds.size < rounds) :
    spread edges rounds [a] [a] = spread edges (world.kinds.size + 1) [a] [a] := by
  obtain ⟨more, rfl⟩ := Nat.exists_eq_add_of_le enough
  exact (Frontier.single a world).spread_add
    (fun kind next edge => List.mem_cons_of_mem _ (mem_kindIds_iff.mpr (inside kind next edge)))
    (by simp [kindIds, Id.upTo]) more

theorem mem_ancestors_iff (h : world.IsHierarchy) : a ∈ world.ancestors b ↔ world.Below b a :=
  mem_spread_iff fun _ _ edge => h.lt_size edge

theorem mem_descendants_iff (h : world.IsHierarchy) :
    a ∈ world.descendants b ↔ world.Below a b := by
  have down : (fun kind next => next ∈ (world.kind kind).subkinds) =
      Function.swap world.JustBelow := by
    funext kind next
    exact propext (h.mirrored next kind)
  rw [descendants, mem_spread_iff, down, Relation.reflTransGen_swap, Below]
  intro kind next edge
  exact lt_size_of_justBelow ((h.mirrored next kind).mp edge)

/-- Nothing is found twice. -/
theorem nodup_spread {edges : Id .kind → List (Id .kind)} (rounds : Nat)
    {pending found : List (Id .kind)} (nodup : found.Nodup) :
    (spread edges rounds pending found).Nodup := by
  fun_induction spread edges rounds pending found with
  | case1 => exact nodup
  | case2 => exact nodup
  | case3 rounds kind pending found fresh ih =>
    refine ih (nodup.append ((nodup_eraseDups _).filter _) ?_)
    intro next old new
    simpa [old] using (List.mem_filter.mp new).2

theorem couldBe_iff_below (h : world.IsHierarchy) : world.couldBe declared kind = true ↔
    ∃ d ∈ declared, ∃ m, world.Below m d ∧ world.Below m kind := by
  simp [couldBe_iff h, mem_descendants_iff h]

/-! ## Kinds that no other is below -/

/-- Ways down end, because each step leaves fewer kinds below. -/
theorem IsHierarchy.wellFounded_justBelow (h : world.IsHierarchy) :
    WellFounded world.JustBelow := by
  refine Subrelation.wf ?_ (measure fun kind => world.kindIds.countP (world.isA · kind)).wf
  intro sub parent edge
  refine countP_lt_of_mem (x := parent) ?_ ?_ ?_ ?_
  · exact mem_kindIds_iff.mpr (h.lt_size edge)
  · intro other below
    rw [isA_iff_below h] at below ⊢
    exact below.tail edge
  · exact (isA_iff_below h).mpr .refl
  · rw [Bool.eq_false_iff, Ne, isA_iff_below h]
    exact fun below => h.acyclic parent (.tail' below edge)

theorem nodup_mostSpecific (world : World) (kinds : List (Id .kind)) :
    (world.mostSpecific kinds).Nodup :=
  nodup_eraseDups _

theorem mostSpecific_singleton (world : World) (kind : Id .kind) :
    world.mostSpecific [kind] = [kind] := by
  simp [mostSpecific, isAbove, List.eraseDups_cons]

/-- The most specific of some kinds are those that no other is below. -/
theorem mem_mostSpecific_iff (h : world.IsHierarchy) : kind ∈ world.mostSpecific declared ↔
    kind ∈ declared ∧ ∀ other ∈ declared, world.Below other kind → other = kind := by
  rw [mostSpecific, List.mem_eraseDups, List.mem_filter, Bool.not_eq_true', List.any_eq_false]
  simp only [isAbove, Bool.and_eq_true, bne_iff_ne, isA_iff_below h, not_and, ne_eq, not_imp_not]

/-- Among some kinds there is one that no other is below. -/
theorem mostSpecific_ne_nil (h : world.IsHierarchy) (mem : kind ∈ declared) :
    world.mostSpecific declared ≠ [] := by
  obtain ⟨least, among, lowest⟩ := h.wellFounded_justBelow.transGen.has_min
    {kind | kind ∈ declared} ⟨kind, mem⟩
  refine List.ne_nil_of_mem (a := least) ((mem_mostSpecific_iff h).mpr ⟨among, ?_⟩)
  intro other ho above
  rcases Relation.reflTransGen_iff_eq_or_transGen.mp above with same | below
  · exact same.symm
  · exact absurd below (lowest other ho)

/-- Below each of some kinds there is one of them that no other is below. -/
theorem exists_mem_mostSpecific (h : world.IsHierarchy) (mem : kind ∈ declared) :
    ∃ least ∈ world.mostSpecific declared, world.Below least kind := by
  have among {other : Id .kind} : other ∈ declared.filter (world.isA · kind) ↔
      other ∈ declared ∧ world.Below other kind := by
    rw [List.mem_filter, isA_iff_below h]
  obtain ⟨least, found⟩ :=
    List.exists_mem_of_ne_nil _ (mostSpecific_ne_nil h (among.mpr ⟨mem, .refl⟩))
  obtain ⟨inside, lowest⟩ := (mem_mostSpecific_iff h).mp found
  obtain ⟨known, below⟩ := among.mp inside
  refine ⟨least, (mem_mostSpecific_iff h).mpr ⟨known, fun other mem under => ?_⟩, below⟩
  exact lowest other (among.mpr ⟨mem, under.trans below⟩) under

/-! ## Worlds that list the higher kinds first -/

/-- In a world whose edges lead up to kinds that came before it is enough to look at its own
kinds. -/
theorem isHierarchy_of_forall_kindIds
    (mirrored : ∀ sub ∈ world.kindIds, ∀ parent ∈ world.kindIds,
      sub ∈ (world.kind parent).subkinds ↔ parent ∈ (world.kind sub).superkinds)
    (inside : ∀ parent ∈ world.kindIds, ∀ sub ∈ (world.kind parent).subkinds,
      sub ∈ world.kindIds)
    (before : ∀ sub ∈ world.kindIds, ∀ parent ∈ (world.kind sub).superkinds,
      parent.index < sub.index) : world.IsHierarchy := by
  have lt {sub parent : Id .kind} (edge : world.JustBelow sub parent) :
      parent.index < sub.index :=
    before sub (mem_kindIds_iff.mpr (lt_size_of_justBelow edge)) parent edge
  constructor
  · intro sub parent
    constructor
    · intro mem
      have known := mem_kindIds_iff.mpr (lt_size_of_mem Kind.subkinds rfl mem)
      exact (mirrored sub (inside parent known sub mem) parent known).mp mem
    · intro edge
      have known := lt_size_of_justBelow edge
      exact (mirrored sub (mem_kindIds_iff.mpr known) parent
        (mem_kindIds_iff.mpr (Nat.lt_trans (lt edge) known))).mpr edge
  · intro kind cycle
    have up {a b : Id .kind} (way : Relation.TransGen world.JustBelow a b) : b.index < a.index := by
      induction way with
      | single edge => exact lt edge
      | tail _ edge ih => exact Nat.lt_trans (lt edge) ih
    exact Nat.lt_irrefl _ (up cycle)

end World

end Worldsmith
