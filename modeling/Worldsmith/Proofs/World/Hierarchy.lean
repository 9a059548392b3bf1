import Mathlib.Data.List.Chain
import Mathlib.Data.List.Nodup
import Mathlib.Data.List.Perm.Subperm
import Mathlib.Tactic.Common
import Worldsmith.World.Hierarchy

/-!
# Hierarchies of kinds

The edges between kinds are recorded at both ends and never lead back to where they started. Then
the bounded climb of `World.isA` finds every way up.

## Main definitions

* `World.Below` — a kind is another or below it, by any number of edges.
* `World.IsHierarchy` — edges are recorded at both ends and form no cycle.

## Main statements

* `World.isA_iff_below` — `isA` decides `Below`.
* `World.couldBe_of_below` — something could be of all kinds above one that it could be of.
* `World.couldBe_induction` — whatever holds of the declared kinds and passes on along edges holds
  of all kinds that something could be.
-/

namespace Worldsmith

namespace World

variable {world : World} {kind parent sub a b : Id .kind} {declared : List (Id .kind)}

/-- Whether a kind is just below another. -/
def JustBelow (world : World) (sub parent : Id .kind) : Prop :=
  parent ∈ (world.kind sub).superkinds

/-- Whether a kind is another or below it. -/
def Below (world : World) : Id .kind → Id .kind → Prop := Relation.ReflTransGen world.JustBelow

/-- The edges between kinds are recorded at both ends and form no cycle. -/
structure IsHierarchy (world : World) : Prop where
  mirrored : ∀ sub parent, sub ∈ (world.kind parent).subkinds ↔ world.JustBelow sub parent
  acyclic : ∀ kind, ¬ Relation.TransGen world.JustBelow kind kind

theorem kind_of_size_le (h : world.kinds.size ≤ kind.index) : world.kind kind = default := by
  simp [World.kind, Array.getD_eq_getD_getElem?, Array.getElem?_eq_none h]

/-- Only of kinds of the world is anything known. -/
theorem lt_size_of_mem {α : Type} {x : α} (known : Kind → List α) (none : known default = [])
    (mem : x ∈ known (world.kind kind)) : kind.index < world.kinds.size := by
  by_contra outside
  rw [kind_of_size_le (Nat.le_of_not_lt outside), none] at mem
  cases mem

theorem lt_size_of_justBelow (h : world.JustBelow sub parent) : sub.index < world.kinds.size :=
  lt_size_of_mem Kind.superkinds rfl h

/-! ## Ways up -/

theorem below_of_isAWithin {steps : Nat} (h : world.isAWithin steps a b = true) :
    world.Below a b := by
  induction steps generalizing a with
  | zero =>
    rw [isAWithin, beq_iff_eq] at h
    exact h ▸ .refl
  | succ steps ih =>
    simp only [isAWithin, Bool.or_eq_true, beq_iff_eq, List.any_eq_true] at h
    obtain rfl | ⟨parent, edge, above⟩ := h
    · exact .refl
    · exact .head edge (ih above)

/-- A way up is found with as many steps as it has edges. -/
theorem isAWithin_of_isChain {steps : Nat} {way : List (Id .kind)}
    (chain : (a :: way).IsChain world.JustBelow) (short : way.length ≤ steps) :
    world.isAWithin steps a ((a :: way).getLast (List.cons_ne_nil a way)) = true := by
  induction way generalizing a steps with
  | nil => cases steps <;> simp [isAWithin]
  | cons next way ih =>
    obtain ⟨edge, rest⟩ := List.isChain_cons_cons.mp chain
    obtain ⟨steps, rfl⟩ : ∃ n, steps = n + 1 := ⟨steps - 1, by simp at short; omega⟩
    have found := ih rest (Nat.le_of_succ_le_succ short)
    rw [isAWithin, Bool.or_eq_true, List.any_eq_true]
    exact .inr ⟨next, edge, by simpa using found⟩

/-- A way up meets no kind twice. -/
theorem IsHierarchy.nodup_of_isChain (h : world.IsHierarchy) {way : List (Id .kind)}
    (chain : way.IsChain world.JustBelow) : way.Nodup := by
  have apart : way.Pairwise (Relation.TransGen world.JustBelow) :=
    List.isChain_iff_pairwise.mp (chain.imp fun _ _ edge => .single edge)
  refine apart.imp ?_
  rintro kind _ way rfl
  exact h.acyclic kind way

/-- A way up has no more edges than there are kinds. -/
theorem IsHierarchy.length_le_of_isChain (h : world.IsHierarchy) {way : List (Id .kind)}
    (chain : (a :: way).IsChain world.JustBelow) : way.length ≤ world.kinds.size := by
  have inside : ∀ kind ∈ (a :: way).dropLast, kind.index < world.kinds.size := by
    clear h
    induction way generalizing a with
    | nil => simp
    | cons next way ih =>
      obtain ⟨edge, rest⟩ := List.isChain_cons_cons.mp chain
      intro kind hk
      rw [List.dropLast_cons_cons] at hk
      rcases List.mem_cons.mp hk with rfl | hk
      · exact lt_size_of_justBelow edge
      · exact ih rest kind hk
  have nodup : ((a :: way).dropLast.map Id.index).Nodup := by
    refine List.Nodup.map ?_ ((h.nodup_of_isChain chain).sublist (List.dropLast_sublist _))
    rintro ⟨i⟩ ⟨j⟩ rfl
    rfl
  have bound : ((a :: way).dropLast.map Id.index).length ≤
      (List.range world.kinds.size).length := by
    refine (List.subperm_of_subset nodup ?_).length_le
    intro i hi
    obtain ⟨kind, hk, rfl⟩ := List.mem_map.mp hi
    exact List.mem_range.mpr (inside kind hk)
  simpa using bound

theorem isA_iff_below (h : world.IsHierarchy) : world.isA a b = true ↔ world.Below a b := by
  refine ⟨below_of_isAWithin, fun below => ?_⟩
  obtain ⟨way, chain, rfl⟩ := List.exists_isChain_cons_of_relationReflTransGen below
  exact isAWithin_of_isChain chain (h.length_le_of_isChain chain)

/-! ## Ways down -/

/-- What holds of the kinds found so far and passes on along edges holds of all that are found. -/
theorem forall_mem_spread {edges : Id .kind → List (Id .kind)} (holds : Id .kind → Prop)
    (pass : ∀ kind, holds kind → ∀ next ∈ edges kind, holds next) (rounds : Nat)
    {pending found : List (Id .kind)} (known : ∀ kind ∈ pending, holds kind)
    (start : ∀ kind ∈ found, holds kind) : ∀ kind ∈ spread edges rounds pending found,
      holds kind := by
  fun_induction spread edges rounds pending found with
  | case1 => exact start
  | case2 => exact start
  | case3 rounds kind pending found fresh ih =>
    obtain ⟨head, rest⟩ := List.forall_mem_cons.mp known
    have new : ∀ next ∈ fresh, holds next := by
      intro next hn
      exact pass kind head next (List.mem_eraseDups.mp (List.mem_of_mem_filter hn))
    exact ih (List.forall_mem_append.mpr ⟨rest, new⟩) (List.forall_mem_append.mpr ⟨start, new⟩)

theorem below_of_mem_descendants (h : world.IsHierarchy) (mem : a ∈ world.descendants b) :
    world.Below a b := by
  refine forall_mem_spread (world.Below · b) ?_ _ ?_ ?_ a mem
  · intro kind below next hn
    exact .head ((h.mirrored next kind).mp hn) below
  · exact fun kind hk => List.mem_singleton.mp hk ▸ .refl
  · exact fun kind hk => List.mem_singleton.mp hk ▸ .refl

/-- What has been found stays found. -/
theorem mem_spread_of_mem {edges : Id .kind → List (Id .kind)} (rounds : Nat)
    {pending found : List (Id .kind)} (hk : kind ∈ found) :
    kind ∈ spread edges rounds pending found := by
  fun_induction spread edges rounds pending found with
  | case1 => exact hk
  | case2 => exact hk
  | case3 rounds kind pending found fresh ih => exact ih (List.mem_append_left _ hk)

theorem mem_descendants_self (world : World) (kind : Id .kind) : kind ∈ world.descendants kind :=
  mem_spread_of_mem _ List.mem_cons_self

/-! ## What something could be -/

theorem couldBe_iff (h : world.IsHierarchy) : world.couldBe declared kind = true ↔
    ∃ d ∈ declared, ∃ m ∈ world.descendants d, world.Below m kind := by
  simp [couldBe, isA_iff_below h]

theorem couldBe_of_mem (h : world.IsHierarchy) (mem : kind ∈ declared) :
    world.couldBe declared kind = true :=
  (couldBe_iff h).mpr ⟨kind, mem, kind, world.mem_descendants_self kind, .refl⟩

theorem couldBe_of_below (h : world.IsHierarchy) (could : world.couldBe declared a = true)
    (below : world.Below a b) : world.couldBe declared b = true := by
  obtain ⟨d, hd, m, hm, above⟩ := (couldBe_iff h).mp could
  exact (couldBe_iff h).mpr ⟨d, hd, m, hm, above.trans below⟩

/-- What holds of the declared kinds and passes on to the kinds just below that something could be,
and to all kinds just above, holds of all kinds that it could be. -/
theorem couldBe_induction (h : world.IsHierarchy) (holds : Id .kind → Prop)
    (start : ∀ kind ∈ declared, holds kind)
    (down : ∀ parent sub, holds parent → sub ∈ (world.kind parent).subkinds →
      world.couldBe declared sub = true → holds sub)
    (up : ∀ sub parent, holds sub → world.JustBelow sub parent → holds parent)
    (could : world.couldBe declared kind = true) : holds kind := by
  obtain ⟨d, hd, m, hm, above⟩ := (couldBe_iff h).mp could
  have between (x : Id .kind) (below : world.Below x d) : world.Below m x → holds x := by
    induction below using Relation.ReflTransGen.head_induction_on with
    | refl => exact fun _ => start d hd
    | @head x y edge _ ih =>
      intro above
      refine down y x (ih (above.tail edge)) ((h.mirrored x y).mpr edge) ?_
      exact (couldBe_iff h).mpr ⟨d, hd, m, hm, above⟩
  have bottom : holds m := between m (below_of_mem_descendants h hm) .refl
  clear could hm between
  induction above with
  | refl => exact bottom
  | tail _ edge ih => exact up _ _ ih edge

end World

end Worldsmith
