import Mathlib.Data.List.Nodup
import Worldsmith.Model.Description
import Worldsmith.Proofs.Lists
import Worldsmith.Proofs.Text.Classes

/-!
# Labels

Beings of one name are told apart by numbers, in their order. Which number a being gets depends on
those of the same name only. So two beings have the same label in one case: the one has its name for
itself, and its name is what the other gets once it is numbered.

## Main definitions

* `Model.withNumber` — a name with a number after it.

## Main statements

* `Model.withNumber_inj` — the name and the number are told by both together.
* `Model.nodup_numbered_iff` — when all of some names are told apart by numbering them.
* `Model.nodup_labels_iff` — when all beings of a model are told apart by their labels.
-/

namespace Worldsmith

namespace Model

/-! ## Names with numbers -/

/-- What is written for one of several beings of a name. -/
def withNumber (name : String) (k : ℕ) : String := name ++ " #" ++ k.repr

/-- Digits follow the last number sign, so the name and the number are told by both together. -/
theorem withNumber_inj {name name' : String} {k k' : ℕ}
    (same : withNumber name k = withNumber name' k') : name = name' ∧ k = k' := by
  have digits (k : ℕ) : ∀ c ∈ k.repr.toList.reverse, (c == '#') = false := by
    intro c mem
    refine beq_eq_false_iff_ne.mpr ?_
    rintro rfl
    exact absurd (isDigit_of_mem_repr (List.mem_reverse.mp mem)) (by decide)
  have backwards (name : String) (k : ℕ) : (withNumber name k).toList.reverse =
      k.repr.toList.reverse ++ '#' :: ' ' :: name.toList.reverse := by
    simp [withNumber]
  have lists := congrArg (List.reverse ∘ String.toList) same
  simp only [Function.comp_apply, backwards] at lists
  obtain ⟨numbers, names⟩ :=
    append_inj_of_head lists (digits k) (digits k') (by simp) (by simp)
  constructor
  · exact String.toList_inj.mp (by simpa using names)
  · exact eq_of_toList_repr_eq (List.reverse_inj.mp numbers)

/-! ## Counting from the start -/

section Counting

variable {names : List String} {name : String} {i j k : ℕ}

theorem count_take_succ (here : names[i]? = some name) :
    (names.take (i + 1)).count name = (names.take i).count name + 1 := by
  rw [List.take_add_one, here, Option.toList_some, List.count_append, List.count_singleton_self]

theorem count_take_le (names : List String) (name : String) (i : ℕ) :
    (names.take i).count name ≤ names.count name :=
  (List.take_sublist i names).count_le name

/-- Up to a later occurrence of a name there are more of them. -/
theorem count_take_lt_count_take (before : i < j) (here : names[j]? = some name) :
    (names.take (i + 1)).count name < (names.take (j + 1)).count name := by
  have fewer : (names.take (i + 1)).count name ≤ (names.take j).count name :=
    (List.take_sublist_take_left before).count_le name
  rw [count_take_succ here]
  omega

/-- Every number from one to that of all occurrences of a name is the number of one of them. -/
theorem exists_count_take_eq (pos : 0 < k) (le : k ≤ names.count name) :
    ∃ i, names[i]? = some name ∧ (names.take (i + 1)).count name = k := by
  induction names generalizing k with
  | nil =>
    rw [List.count_nil] at le
    omega
  | cons first rest ih =>
    by_cases same : first = name
    · subst same
      rw [List.count_cons_self] at le
      by_cases one : k = 1
      · exact ⟨0, rfl, by simp [one]⟩
      · obtain ⟨i, here, count⟩ := @ih (k - 1) (by omega) (by omega)
        refine ⟨i + 1, by simpa using here, ?_⟩
        rw [List.take_succ_cons, List.count_cons_self, count]
        omega
    · rw [List.count_cons_of_ne same] at le
      obtain ⟨i, here, count⟩ := ih pos le
      refine ⟨i + 1, by simpa using here, ?_⟩
      rw [List.take_succ_cons, List.count_cons_of_ne same, count]

end Counting

/-! ## Numbering -/

/-- What one of some names becomes: itself if it is there once, or with the number of its
occurrences so far. -/
def labelOf (names : List String) (i : ℕ) (name : String) : String :=
  if names.count name = 1 then name else withNumber name ((names.take (i + 1)).count name)

/-- Whether no name that is there once is what one of several equal names becomes. -/
def Unmistakable (names : List String) : Prop :=
  ∀ name other k, names.count name = 1 → 1 < names.count other → 0 < k →
    k ≤ names.count other → name ≠ withNumber other k

section Numbering

variable {names : List String} {name name' : String} {i j : ℕ}

theorem getElem?_numbered (names : List String) (i : ℕ) :
    (numbered names)[i]? = names[i]?.map (labelOf names i) := by
  cases here : names[i]? <;> simp [numbered, labelOf, withNumber, here]

theorem count_pos_of_getElem? (here : names[i]? = some name) : 0 < names.count name := by
  have upTo := count_take_succ here
  have := count_take_le names name (i + 1)
  omega

/-- A name and a numbered one are not mistaken for each other. -/
theorem Unmistakable.ne_withNumber (unmistakable : Unmistakable names)
    (once : names.count name = 1) (several : names.count name' ≠ 1)
    (here : names[i]? = some name') :
    name ≠ withNumber name' ((names.take (i + 1)).count name') := by
  have pos := count_pos_of_getElem? here
  have upTo := count_take_succ here
  refine unmistakable _ _ _ once (by omega) (by omega) (count_take_le ..)

theorem Unmistakable.labelOf_ne (unmistakable : Unmistakable names) (before : i < j)
    (here : names[i]? = some name) (there : names[j]? = some name') :
    labelOf names i name ≠ labelOf names j name' := by
  have apart (same : name = name') :
      (names.take (i + 1)).count name < (names.take (j + 1)).count name := by
    subst same
    exact count_take_lt_count_take before there
  unfold labelOf
  split_ifs with once once' once'
  · intro same
    have more := apart same
    have := count_take_le names name (j + 1)
    have := count_take_succ here
    omega
  · exact unmistakable.ne_withNumber once once' there
  · exact (unmistakable.ne_withNumber once' once here).symm
  · intro same
    obtain ⟨rfl, count⟩ := withNumber_inj same
    have := apart rfl
    omega

/-- Numbering tells names apart if and only if no name that is there once is what one of several
equal names becomes. -/
theorem nodup_numbered_iff (names : List String) :
    (numbered names).Nodup ↔ Unmistakable names := by
  constructor
  · rintro nodup name other k once several pos le rfl
    obtain ⟨i, here, -⟩ := exists_count_take_eq Nat.one_pos (Nat.le_of_eq once.symm)
    obtain ⟨j, there, count⟩ := exists_count_take_eq pos le
    have label : (numbered names)[i]? = some (withNumber other k) := by
      rw [getElem?_numbered, here, Option.map_some, labelOf, if_pos once]
    have label' : (numbered names)[j]? = some (withNumber other k) := by
      rw [getElem?_numbered, there, Option.map_some, labelOf, if_neg (by omega), count]
    obtain ⟨inside, -⟩ := List.getElem?_eq_some_iff.mp label
    obtain rfl := (List.getElem?_inj inside nodup).mp (label.trans label'.symm)
    have same := Option.some.inj (here.symm.trans there)
    rw [same] at once
    omega
  · intro unmistakable
    rw [List.nodup_iff_getElem?_ne_getElem?]
    intro i j before inside
    have length : (numbered names).length = names.length := by simp [numbered]
    rw [length] at inside
    rw [getElem?_numbered, getElem?_numbered, List.getElem?_eq_getElem inside,
      List.getElem?_eq_getElem (Nat.lt_trans before inside), Option.map_some, Option.map_some]
    intro same
    exact unmistakable.labelOf_ne before (List.getElem?_eq_getElem _)
      (List.getElem?_eq_getElem inside) (Option.some.inj same)

example : numbered ["eye #1", "eye", "eye"] = ["eye #1", "eye #1", "eye #2"] := by decide

end Numbering

/-! ## Labels of beings -/

/-- The names of all beings. -/
def names (m : Model) : List String := (List.range m.size).map m.name

theorem labels_eq (m : Model) : m.labels = numbered m.names :=
  congrArg numbered List.idRun_mapM

/-- The labels of a model tell its beings apart if and only if no being that has its name for itself
is called what one of several beings of the same name becomes. -/
theorem nodup_labels_iff (m : Model) : m.labels.Nodup ↔ Unmistakable m.names := by
  rw [labels_eq, nodup_numbered_iff]

end Model

end Worldsmith
