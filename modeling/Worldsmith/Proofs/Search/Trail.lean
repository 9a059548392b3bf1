import Mathlib.Tactic.Common
import Worldsmith.Proofs.Logic.Satisfaction
import Worldsmith.Search.Trail

/-!
# Trails that grow

Assigning one open proposition after another makes a trail grow. Going back to the height of an
earlier trail gives exactly that trail.

## Main definitions

* `Trail.Open` — a proposition has a place on the trail and no value.
* `Trail.Grows` — a trail comes from another by assigning open propositions.
* `Trail.openings` — the number of propositions without a value.
-/

namespace Worldsmith

namespace Trail

variable {trail later last : Trail} {p : Proposition} {l : Literal}

/-- Whether a proposition of the trail has no value yet. -/
def Open (trail : Trail) (p : Proposition) : Prop := trail.values[p.index]? = some none

theorem open_iff : trail.Open p ↔ p.index < trail.values.size ∧ trail.at? p = none := by
  simp only [Open, at?, Array.getD_eq_getD_getElem?, Array.getElem?_eq_some_iff]
  constructor
  · rintro ⟨h, known⟩
    simp [h, known]
  · rintro ⟨h, known⟩
    exact ⟨h, by simpa [h] using known⟩

/-- What has a value is in range. -/
theorem index_lt_of_isSome (known : (trail.at? p).isSome = true) :
    p.index < trail.values.size := by
  by_contra outside
  simp [at?, Array.getD_eq_getD_getElem?, Array.getElem?_eq_none (Nat.not_lt.mp outside)] at known

theorem at?_blank (count : Nat) (p : Proposition) : (blank count).at? p = none := by
  simp [at?, blank, Array.getD_eq_getD_getElem?, Array.getElem?_replicate]
  split <;> rfl

theorem value_eq (trail : Trail) : trail.value = Assignment.value trail.at? := rfl

@[simp] theorem size_assign (trail : Trail) (l : Literal) :
    (trail.assign l).values.size = trail.values.size := by
  simp [assign]

@[simp] theorem height_assign (trail : Trail) (l : Literal) :
    (trail.assign l).height = trail.height + 1 := by
  simp [assign, height]

theorem at?_assign (h : trail.Open l.proposition) (p : Proposition) :
    (trail.assign l).at? p = if p = l.proposition then some l.positive else trail.at? p := by
  obtain ⟨inside, -⟩ := open_iff.mp h
  simp only [at?, assign, Array.getD_eq_getD_getElem?]
  split_ifs with same
  · subst same
    simp [inside]
  · have apart : l.proposition.index ≠ p.index := fun index =>
      same (by cases p; cases hl : l.proposition; simp_all)
    rw [Array.getElem?_setIfInBounds_ne apart]

theorem at?_assign_of_ne (h : trail.Open l.proposition) (apart : p ≠ l.proposition) :
    (trail.assign l).at? p = trail.at? p := by
  rw [at?_assign h, if_neg apart]

theorem at?_assign_of_eq_some (h : trail.Open l.proposition) {b : Bool}
    (known : trail.at? p = some b) : (trail.assign l).at? p = some b := by
  rw [at?_assign_of_ne h, known]
  rintro rfl
  simp [(open_iff.mp h).2] at known

/-! ## Growing -/

/-- A trail comes from another by giving values to open propositions, one after the other. -/
inductive Grows (trail : Trail) : Trail → Prop where
  | refl : Grows trail trail
  | assign {later : Trail} {l : Literal} (grows : Grows trail later)
      (fresh : later.Open l.proposition) : Grows trail (later.assign l)

theorem Grows.trans (h : trail.Grows later) (g : later.Grows last) : trail.Grows last := by
  induction g with
  | refl => exact h
  | assign _ fresh ih => exact ih.assign fresh

theorem grows_assign (fresh : trail.Open l.proposition) : trail.Grows (trail.assign l) :=
  Grows.refl.assign fresh

theorem Grows.size_eq (h : trail.Grows later) : later.values.size = trail.values.size := by
  induction h with
  | refl => rfl
  | assign _ _ ih => rw [size_assign, ih]

theorem Grows.height_le (h : trail.Grows later) : trail.height ≤ later.height := by
  induction h with
  | refl => exact Nat.le_refl _
  | assign _ _ ih => rw [height_assign]; exact Nat.le_succ_of_le ih

theorem Grows.at?_eq_some (h : trail.Grows later) {b : Bool} (known : trail.at? p = some b) :
    later.at? p = some b := by
  induction h with
  | refl => exact known
  | assign _ fresh ih => exact at?_assign_of_eq_some fresh ih

theorem Grows.isSome_at? (h : trail.Grows later) (known : (trail.at? p).isSome = true) :
    (later.at? p).isSome = true := by
  obtain ⟨b, hb⟩ := Option.isSome_iff_exists.mp known
  rw [h.at?_eq_some hb]
  rfl

/-! ## Going back -/

theorem undo_of_height_le {height : Nat} (h : trail.height ≤ height) :
    trail.undo height = trail := by
  obtain ⟨values, order⟩ := trail
  have above : ¬ height < order.size := Nat.not_lt.mpr h
  rw [undo, dif_neg above]

theorem undo_assign {height : Nat} (fresh : trail.Open l.proposition)
    (h : height ≤ trail.height) : (trail.assign l).undo height = trail.undo height := by
  obtain ⟨values, order⟩ := trail
  have below : height < (order.push l.proposition).size := by
    rw [Array.size_push]
    exact Nat.lt_succ_of_le h
  have restored : (values.setIfInBounds l.proposition.index (some l.positive)).setIfInBounds
      l.proposition.index none = values := by
    rw [Array.setIfInBounds_setIfInBounds]
    refine Array.ext_getElem? fun i => ?_
    rw [Array.getElem?_setIfInBounds]
    split_ifs with same
    · rw [← same, fresh]
    · simp_all
    · rfl
  have top : (order.push l.proposition).back (Nat.zero_lt_of_lt below) = l.proposition := by
    simp [Array.back]
  rw [assign, undo, dif_pos below]
  simp only [top, Array.pop_push, restored]

/-- Going back to the height of an earlier trail gives that trail. -/
theorem Grows.undo_eq (h : trail.Grows later) : later.undo trail.height = trail := by
  induction h with
  | refl => exact undo_of_height_le (Nat.le_refl _)
  | assign grows fresh ih => rw [undo_assign fresh grows.height_le, ih]

/-- Going back to before a literal was made true gives the trail of that time. -/
theorem undo_of_grows_assign (fresh : trail.Open l.proposition) (h : (trail.assign l).Grows later) :
    later.undo trail.height = trail :=
  ((grows_assign fresh).trans h).undo_eq

/-! ## Openings -/

/-- The number of propositions without a value. -/
def openings (trail : Trail) : Nat := trail.values.countP (·.isNone)

theorem openings_assign (fresh : trail.Open l.proposition) :
    (trail.assign l).openings + 1 = trail.openings := by
  obtain ⟨inside, value⟩ := Array.getElem?_eq_some_iff.mp fresh
  have some_open : 0 < trail.values.countP (·.isNone) :=
    Array.countP_pos_iff.mpr ⟨none, value ▸ Array.getElem_mem inside, rfl⟩
  simp only [openings, assign, Array.setIfInBounds, inside, dif_pos]
  rw [Array.countP_set, value]
  simp only [Option.isNone_none, Option.isNone_some, if_true]
  simp
  omega

theorem Grows.openings_le (h : trail.Grows later) : later.openings ≤ trail.openings := by
  induction h with
  | refl => exact Nat.le_refl _
  | assign _ fresh ih => have := openings_assign fresh; omega

end Trail

namespace Valuation

variable {v : Valuation} {trail later : Trail} {l : Literal}

theorem completes_blank (v : Valuation) (count : Nat) : v.Completes (Trail.blank count).at? := by
  intro p b known
  simp [Trail.at?_blank] at known

theorem Completes.assign (h : v.Completes trail.at?) (fresh : trail.Open l.proposition)
    (satisfied : v.satisfies l = true) : v.Completes (trail.assign l).at? := by
  intro p b known
  rw [Trail.at?_assign fresh] at known
  split_ifs at known with same
  · rw [same, satisfies_iff.mp satisfied, Option.some.inj known]
  · exact h p b known

end Valuation

end Worldsmith
