import Worldsmith.Proofs.Search.Trail

/-!
# What a trail records

A trail keeps the propositions that have a value in the order in which they got it, each once. To go
back to a height is to keep that many of them, with the values that they have, and to take the
values of all others away.

## Main definitions

* `Trail.IsRecord` — a trail lists just the propositions that have a value, and none twice.

## Main statements

* `Trail.order_undo` — what is left of the order of a trail after going back.
* `Trail.undo_undo` — going back in two steps is going back in one.
* `Trail.IsRecord.assign`, `Trail.IsRecord.undo` — a trail stays a record, and going back changes
  none of the values that are left.
-/

namespace Worldsmith

namespace Trail

variable {trail : Trail} {p : Proposition} {l : Literal} {height low : ℕ}

/-- Whether a trail lists just the propositions that have a value, and none twice. -/
structure IsRecord (trail : Trail) : Prop where
  nodup : trail.order.toList.Nodup
  mem_iff : ∀ p, p ∈ trail.order.toList ↔ (trail.at? p).isSome

theorem isRecord_blank (count : ℕ) : (blank count).IsRecord where
  nodup := List.nodup_nil
  mem_iff p := by
    rw [at?_blank]
    simp [blank]

@[simp] theorem order_assign (trail : Trail) (l : Literal) :
    (trail.assign l).order.toList = trail.order.toList ++ [l.proposition] := by
  simp [assign]

theorem IsRecord.assign (record : trail.IsRecord) (fresh : trail.Open l.proposition) :
    (trail.assign l).IsRecord where
  nodup := by
    rw [order_assign]
    refine List.nodup_append.mpr ⟨record.nodup, by simp, ?_⟩
    rintro p known q new rfl
    obtain rfl := List.mem_singleton.mp new
    simpa [(open_iff.mp fresh).2] using (record.mem_iff l.proposition).mp known
  mem_iff p := by
    rw [order_assign, List.mem_append, List.mem_singleton, record.mem_iff, at?_assign fresh]
    by_cases same : p = l.proposition <;> simp [same]

/-! ## Going back -/

@[simp] theorem size_undo (height : ℕ) (trail : Trail) :
    (trail.undo height).values.size = trail.values.size := by
  fun_induction undo height trail with
  | case1 values order above p ih => simpa using ih
  | case2 => rfl

theorem take_pop {order : Array Proposition} (above : height < order.size) :
    order.pop.toList.take height = order.toList.take height := by
  rw [Array.toList_pop, List.dropLast_eq_take, List.take_take, Array.length_toList]
  congr 1
  omega

theorem order_undo (height : ℕ) (trail : Trail) :
    (trail.undo height).order.toList = trail.order.toList.take height := by
  fun_induction undo height trail with
  | case1 values order above p ih => rw [ih, take_pop above]
  | case2 values order above =>
    rw [List.take_of_length_le]
    simpa using above

theorem undo_undo (le : low ≤ height) : (trail.undo height).undo low = trail.undo low := by
  fun_induction undo height trail with
  | case1 values order above p ih =>
    have lower : low < order.size := by omega
    rw [ih, eq_comm, undo, dif_pos lower]
  | case2 => rfl

theorem eq_of_index_eq {p q : Proposition} (same : p.index = q.index) : p = q := by
  cases p
  cases q
  exact congrArg Proposition.mk same

/-- Taking the value of the last proposition away leaves a record of the others. -/
theorem IsRecord.pop {values : Array (Option Bool)} {order : Array Proposition}
    (record : IsRecord ⟨values, order⟩) (above : 0 < order.size) :
    IsRecord ⟨values.setIfInBounds (order.back above).index none, order.pop⟩ ∧
      ∀ q ∈ order.pop.toList,
        at? ⟨values.setIfInBounds (order.back above).index none, order.pop⟩ q =
          at? ⟨values, order⟩ q := by
  have parts : order.toList = order.pop.toList ++ [order.back above] := by
    have some : order.toList ≠ [] := List.ne_nil_of_length_pos above
    rw [Array.toList_pop, ← Array.getLast_toList order some, List.dropLast_concat_getLast]
  have nodup := record.nodup
  rw [parts, List.nodup_append] at nodup
  have apart {q : Proposition} (mem : q ∈ order.pop.toList) : q ≠ order.back above :=
    nodup.2.2 q mem _ (List.mem_singleton_self _)
  have value (q : Proposition) :
      at? ⟨values.setIfInBounds (order.back above).index none, order.pop⟩ q =
        if q = order.back above then none else at? ⟨values, order⟩ q := by
    simp only [at?, Array.getD_eq_getD_getElem?]
    split_ifs with same
    · subst same
      rw [Array.getElem?_setIfInBounds_self]
      split_ifs <;> rfl
    · rw [Array.getElem?_setIfInBounds_ne fun index => same (eq_of_index_eq index.symm)]
  refine ⟨⟨nodup.1, fun q => ?_⟩, fun q mem => by rw [value, if_neg (apart mem)]⟩
  have known := record.mem_iff q
  rw [parts, List.mem_append, List.mem_singleton] at known
  rw [value]
  split_ifs with same
  · simpa using fun mem => apart mem same
  · simpa [same] using known

/-- What is left of a record is a record, with the values that there were. -/
theorem IsRecord.undo (record : trail.IsRecord) (height : ℕ) : (trail.undo height).IsRecord ∧
    ∀ p ∈ trail.order.toList.take height, (trail.undo height).at? p = trail.at? p := by
  fun_induction Trail.undo height trail with
  | case1 values order above p ih =>
    obtain ⟨rest, kept⟩ := record.pop (Nat.zero_lt_of_lt above)
    obtain ⟨undone, left⟩ := ih rest
    rw [take_pop above] at left
    refine ⟨undone, fun q mem => (left q mem).trans (kept q ?_)⟩
    rw [← take_pop above] at mem
    exact List.mem_of_mem_take mem
  | case2 => exact ⟨record, fun _ _ => rfl⟩

end Trail

end Worldsmith
