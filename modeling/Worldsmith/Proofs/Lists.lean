import Mathlib.Data.List.Forall2
import Mathlib.Data.List.Induction
import Mathlib.Data.List.Nodup
import Mathlib.Tactic.Common

/-!
# Lists, arrays and steps in order

Blueprints are made by steps for one thing after another, and worlds by changes in one place of an
array. Problems count every literal of a constraint once: here is what `List.eraseDups` does to
lists that correspond member by member, and how members are counted in what it leaves. Names that
have been put together are taken apart where a character of some sort comes first.
-/

namespace Worldsmith

/-- Steps for one thing after another. What each achieves lasts. -/
theorem foldl_done {σ α : Type} {R : σ → σ → Prop} {f : σ → α → σ} {s : σ} (xs : List α)
    (done : σ → α → Prop) (trans : ∀ {a b c}, R a b → R b c → R a c) (start : R s s)
    (refl : ∀ {a}, R s a → R a a)
    (lasts : ∀ {a b x}, R s a → R a b → done a x → done b x)
    (step : ∀ a, R s a → ∀ x ∈ xs, R a (f a x) ∧ done (f a x) x) :
    R s (xs.foldl f s) ∧ ∀ x ∈ xs, done (xs.foldl f s) x := by
  have run (ys : List α) (sub : ∀ y ∈ ys, y ∈ xs) (a : σ) (h : R s a) :
      R a (ys.foldl f a) ∧ ∀ y ∈ ys, done (ys.foldl f a) y := by
    induction ys generalizing a with
    | nil => exact ⟨refl h, by simp⟩
    | cons y ys ih =>
      obtain ⟨mem, sub⟩ := List.forall_mem_cons.mp sub
      obtain ⟨first, now⟩ := step a h y mem
      obtain ⟨rest, later⟩ := ih sub (f a y) (trans h first)
      refine ⟨trans first rest, List.forall_mem_cons.mpr ⟨?_, later⟩⟩
      exact lasts (trans h first) rest now
  exact run xs (fun _ => id) s start

/-- Two ways of doing steps come to the same if they do in all that lasts. -/
theorem foldl_congr {σ α : Type} {f g : σ → α → σ} (lasts : σ → Prop) {xs : List α} {s : σ}
    (start : lasts s) (same : ∀ s, lasts s → ∀ x ∈ xs, f s x = g s x ∧ lasts (f s x)) :
    xs.foldl f s = xs.foldl g s := by
  induction xs generalizing s with
  | nil => rfl
  | cons x rest ih =>
    obtain ⟨first, next⟩ := same s start x List.mem_cons_self
    rw [List.foldl_cons, List.foldl_cons, ← first]
    exact ih next fun s lasts x mem => same s lasts x (List.mem_cons_of_mem _ mem)

/-- Steps that may fail do not, if what comes of them in the end is no failure. -/
theorem exists_of_bind_eq_ok {ε α β : Type} {first : Except ε α} {next : α → Except ε β} {b : β}
    (made : first >>= next = .ok b) : ∃ a, first = .ok a ∧ next a = .ok b := by
  cases first with
  | error error => cases made
  | ok a => exact ⟨a, rfl, made⟩

theorem exists_of_map_eq_ok {ε α β : Type} {result : Except ε α} {f : α → β} {b : β}
    (made : result.map f = .ok b) : ∃ a, result = .ok a ∧ f a = b := by
  cases result with
  | error error => cases made
  | ok a =>
    cases made
    exact ⟨a, rfl, rfl⟩

section Folding

variable {ε σ α : Type} {f g : σ → α → Except ε σ}

/-- What every step does, all steps together do. -/
theorem rel_of_foldlM {R : σ → σ → Prop} {xs : List α} {s t : σ} (refl : ∀ s, R s s)
    (trans : ∀ {s t u}, R s t → R t u → R s u)
    (step : ∀ {s x t}, x ∈ xs → f s x = .ok t → R s t) (made : xs.foldlM f s = .ok t) : R s t := by
  induction xs generalizing s with
  | nil =>
    cases made
    exact refl _
  | cons x rest ih =>
    obtain ⟨u, first, others⟩ := exists_of_bind_eq_ok made
    exact trans (step List.mem_cons_self first)
      (ih (fun mem => step (List.mem_cons_of_mem _ mem)) others)

/-- Steps that agree as long as something lasts, agree altogether. -/
theorem foldlM_congr (lasts : σ → Prop) {xs : List α} {s : σ} (start : lasts s)
    (same : ∀ {s x}, x ∈ xs → lasts s → f s x = g s x)
    (step : ∀ {s x t}, x ∈ xs → lasts s → f s x = .ok t → lasts t) :
    xs.foldlM f s = xs.foldlM g s := by
  induction xs generalizing s with
  | nil => rfl
  | cons x rest ih =>
    rw [List.foldlM_cons, List.foldlM_cons, ← same List.mem_cons_self start]
    cases first : f s x with
    | error error => rfl
    | ok t =>
      exact ih (step List.mem_cons_self start first)
        (fun mem => same (List.mem_cons_of_mem _ mem))
        fun mem => step (List.mem_cons_of_mem _ mem)

/-- Steps that agree wherever the others stay below their end, end there too. -/
theorem foldlM_eq_ok (R : σ → σ → Prop) {xs : List α} {s t : σ} (refl : ∀ s, R s s)
    (trans : ∀ {s t u}, R s t → R t u → R s u)
    (grows : ∀ {s x t}, x ∈ xs → f s x = .ok t → R s t)
    (same : ∀ {s x u}, f s x = .ok u → R u t → g s x = .ok u) (made : xs.foldlM f s = .ok t) :
    xs.foldlM g s = .ok t := by
  induction xs generalizing s with
  | nil => exact made
  | cons x rest ih =>
    obtain ⟨u, first, others⟩ := exists_of_bind_eq_ok made
    have below : R u t :=
      rel_of_foldlM refl trans (fun mem => grows (List.mem_cons_of_mem _ mem)) others
    rw [List.foldlM_cons, same first below]
    exact ih (fun mem => grows (List.mem_cons_of_mem _ mem)) others

end Folding

/-- Looking up what has been changed in one place. -/
theorem getD_modify {α : Type} [Inhabited α] (array : Array α) (i j : Nat) (f : α → α) :
    (array.modify i f).getD j default =
      if i = j ∧ j < array.size then f (array.getD j default) else array.getD j default := by
  simp only [Array.getD_eq_getD_getElem?, Array.getElem?_modify]
  by_cases inside : j < array.size
  · by_cases same : i = j <;> simp [inside, same]
  · simp [inside]

/-- Looking up what something like the default has been put after. -/
theorem getD_push {α β : Type} [Inhabited α] (array : Array α) (i : Nat) {a : α} (field : α → β)
    (plain : field a = field default) :
    field ((array.push a).getD i default) = field (array.getD i default) := by
  rw [Array.getD_eq_getD_getElem?, Array.getD_eq_getD_getElem?, Array.getElem?_push]
  split_ifs with last
  · simpa [last] using plain
  · rfl

theorem mem_modify {α : Type} {array : Array α} {i : Nat} {f : α → α} {b : α}
    (mem : b ∈ array.modify i f) : b ∈ array ∨ ∃ a ∈ array, b = f a := by
  obtain ⟨j, inside, rfl⟩ := Array.getElem_of_mem mem
  rw [Array.size_modify] at inside
  rw [Array.getElem_modify]
  split_ifs
  · exact .inr ⟨_, Array.getElem_mem inside, rfl⟩
  · exact .inl (Array.getElem_mem inside)

/-- To change what was put in the last place is to put something else there. -/
theorem modify_push {α : Type} (xs : Array α) (x : α) (f : α → α) :
    (xs.push x).modify xs.size f = xs.push (f x) := by
  refine Array.ext_getElem? fun i => ?_
  rw [Array.getElem?_modify, Array.getElem?_push, Array.getElem?_push]
  by_cases last : i = xs.size
  · simp [last]
  · simp [last, Ne.symm last]

variable {α β : Type} {R : α → β → Prop} {xs : List α} {ys : List β} {p : α → Bool} {q : β → Bool}

theorem countP_of_forall₂ (h : List.Forall₂ R xs ys) (same : ∀ {x y}, R x y → p x = q y) :
    xs.countP p = ys.countP q := by
  induction h with
  | nil => rfl
  | cons related _ ih => rw [List.countP_cons, List.countP_cons, ih, same related]

section Alike

variable {γ : Type} {S : β → γ → Prop} {T : α → γ → Prop}

/-- What is related to the same list is related to each other where it is so at each place. -/
theorem forall₂_of_same {zs : List γ} (h : List.Forall₂ T xs zs) (g : List.Forall₂ S ys zs)
    (join : ∀ {x y z}, T x z → S y z → R x y) : List.Forall₂ R xs ys := by
  induction h generalizing ys with
  | nil =>
    cases g
    exact .nil
  | cons related _ ih =>
    cases g with
    | cons related' rest' => exact .cons (join related related') (ih rest')

theorem forall₂_zip_left (zs : List γ) (h : List.Forall₂ R xs ys) :
    List.Forall₂ (fun x y => x.1 = y.1 ∧ R x.2 y.2) (zs.zip xs) (zs.zip ys) := by
  induction h generalizing zs with
  | nil => simp
  | cons related _ ih =>
    cases zs with
    | nil => exact .nil
    | cons z zs => exact .cons ⟨rfl, related⟩ (ih zs)

theorem forall₂_filterMap {f : γ → Option α} {g : γ → Option β}
    (related : ∀ z, Option.Rel R (f z) (g z)) (zs : List γ) :
    List.Forall₂ R (zs.filterMap f) (zs.filterMap g) := by
  refine List.rel_filterMap (R := Eq) ?_ (List.forall₂_eq_eq_eq ▸ rfl)
  rintro z _ rfl
  exact related z

end Alike

theorem exists_of_forall₂_left (h : List.Forall₂ R xs ys) : ∀ x ∈ xs, ∃ y ∈ ys, R x y := by
  induction h with
  | nil => simp
  | cons related _ ih =>
    refine List.forall_mem_cons.mpr ⟨⟨_, List.mem_cons_self, related⟩, fun x mem => ?_⟩
    obtain ⟨y, mem, related⟩ := ih x mem
    exact ⟨y, List.mem_cons_of_mem _ mem, related⟩

theorem exists_of_forall₂_right (h : List.Forall₂ R xs ys) : ∀ y ∈ ys, ∃ x ∈ xs, R x y :=
  exists_of_forall₂_left h.flip

theorem countP_lt_of_mem {q : α → Bool} {x : α} (mem : x ∈ xs)
    (imp : ∀ y, q y = true → p y = true) (hp : p x = true) (hq : q x = false) :
    xs.countP q < xs.countP p := by
  induction xs with
  | nil => cases mem
  | cons y ys ih =>
    rw [List.countP_cons, List.countP_cons]
    rcases List.mem_cons.mp mem with rfl | mem
    · have := List.countP_mono_left (l := ys) fun y _ => imp y
      simp only [hp, hq, if_true, Bool.false_eq_true, if_false]
      omega
    · have fewer := ih mem
      cases hy : q y with
      | true => simp only [imp y hy, if_true]; omega
      | false => simp only [Bool.false_eq_true, if_false]; omega

/-- What comes of a step for each of some things that never fails comes of one of them. -/
theorem exists_of_mapM_eq_some {f : α → Option β} {xs : List α} {ys : List β}
    (made : xs.mapM f = some ys) : ∀ y ∈ ys, ∃ x ∈ xs, f x = some y := by
  induction xs generalizing ys with
  | nil =>
    obtain rfl := Option.some.inj made
    simp
  | cons x xs ih =>
    rw [List.mapM_cons] at made
    obtain ⟨y, first, rest⟩ := Option.bind_eq_some_iff.mp made
    obtain ⟨ys', later, same⟩ := Option.bind_eq_some_iff.mp rest
    obtain rfl := Option.some.inj same
    refine List.forall_mem_cons.mpr ⟨⟨x, List.mem_cons_self, first⟩, fun y' mem => ?_⟩
    obtain ⟨x', among, comes⟩ := ih later y' mem
    exact ⟨x', List.mem_cons_of_mem x among, comes⟩

theorem exists_of_mapM_eq_ok {ε : Type} {f : α → Except ε β} {xs : List α} {ys : List β}
    (made : xs.mapM f = .ok ys) : ∀ y ∈ ys, ∃ x ∈ xs, f x = .ok y := by
  induction xs generalizing ys with
  | nil =>
    cases made
    simp
  | cons x xs ih =>
    rw [List.mapM_cons] at made
    obtain ⟨y, first, rest⟩ := exists_of_bind_eq_ok made
    obtain ⟨ys', later, same⟩ := exists_of_bind_eq_ok rest
    cases same
    refine List.forall_mem_cons.mpr ⟨⟨x, List.mem_cons_self, first⟩, fun y' mem => ?_⟩
    obtain ⟨x', among, comes⟩ := ih later y' mem
    exact ⟨x', List.mem_cons_of_mem x among, comes⟩

/-- To search a list is to search those of its items that anything is found for. -/
theorem findSome?_filter {f : α → Option β} (only : ∀ x ∈ xs, (f x).isSome → p x) :
    (xs.filter p).findSome? f = xs.findSome? f := by
  induction xs with
  | nil => rfl
  | cons x xs ih =>
    obtain ⟨first, rest⟩ := List.forall_mem_cons.mp only
    cases found : f x with
    | none => cases holds : p x <;> simp [holds, found, ih rest]
    | some b => simp [first (Option.isSome_of_eq_some found), found]

/-- If no key is there twice, looking for one finds no more than its entry. -/
theorem filter_fst_of_nodup [DecidableEq α] {entries : List (α × β)} {a : α} {b : β}
    (nodup : (entries.map Prod.fst).Nodup) (mem : (a, b) ∈ entries) :
    entries.filter (·.1 == a) = [(a, b)] := by
  induction entries with
  | nil => cases mem
  | cons entry rest ih =>
    obtain ⟨fresh, nodup⟩ := List.nodup_cons.mp nodup
    rcases List.mem_cons.mp mem with rfl | mem
    · have others : rest.filter (·.1 == a) = [] := by
        refine List.filter_eq_nil_iff.mpr fun other mem same => fresh ?_
        exact List.mem_map.mpr ⟨other, mem, beq_iff_eq.mp same⟩
      rw [List.filter_cons, if_pos (beq_self_eq_true a), others]
    · have other : entry.1 ≠ a := fun same => fresh (same ▸ List.mem_map_of_mem mem)
      rw [List.filter_cons_of_neg (by simpa using other), ih nodup mem]

theorem one_lt_length_of_ne {x y : α} (hx : x ∈ xs) (hy : y ∈ xs) (apart : x ≠ y) :
    1 < xs.length := by
  rcases xs with _ | ⟨a, _ | ⟨b, rest⟩⟩
  · cases hx
  · exact absurd ((List.mem_singleton.mp hx).trans (List.mem_singleton.mp hy).symm) apart
  · simp

/-- What is before the first member of a sort, and what begins with it, are told by the whole. -/
theorem append_inj_of_head {xs' ys ys' : List α} (same : xs ++ ys = xs' ++ ys')
    (before : ∀ x ∈ xs, p x = false) (before' : ∀ x ∈ xs', p x = false)
    (after : ∀ y ∈ ys.head?, p y = true) (after' : ∀ y ∈ ys'.head?, p y = true) :
    xs = xs' ∧ ys = ys' := by
  induction xs generalizing xs' with
  | nil =>
    cases xs' with
    | nil => exact ⟨rfl, same⟩
    | cons x xs' =>
      rw [List.nil_append] at same
      have here := after x (by rw [same]; rfl)
      rw [before' x List.mem_cons_self] at here
      cases here
  | cons x xs ih =>
    cases xs' with
    | nil =>
      rw [List.nil_append] at same
      have here := after' x (by rw [← same]; rfl)
      rw [before x List.mem_cons_self] at here
      cases here
    | cons x' xs' =>
      obtain ⟨rfl, rest⟩ := List.cons.inj same
      obtain ⟨rfl, rfl⟩ := ih rest (List.forall_mem_cons.mp before).2
        (List.forall_mem_cons.mp before').2
      exact ⟨rfl, rfl⟩

variable [DecidableEq α] [DecidableEq β]

theorem nodup_eraseDups : (xs : List α) → xs.eraseDups.Nodup
  | [] => by simp
  | x :: xs => by
    rw [List.eraseDups_cons, List.nodup_cons]
    exact ⟨by simp, nodup_eraseDups _⟩
termination_by xs => xs.length
decreasing_by exact Nat.lt_succ_of_le (List.length_filter_le _ _)

theorem eraseDups_filter (p : α → Bool) : (xs : List α) →
    (xs.filter p).eraseDups = xs.eraseDups.filter p
  | [] => by simp
  | x :: xs => by
    have rest := eraseDups_filter p (xs.filter fun y => !y == x)
    rw [List.filter_comm] at rest
    cases hx : p x with
    | true =>
      rw [List.filter_cons_of_pos hx, List.eraseDups_cons, List.eraseDups_cons,
        List.filter_cons_of_pos hx, rest]
    | false =>
      have others : (xs.filter p).filter (fun y => !y == x) = xs.filter p := by
        refine List.filter_eq_self.mpr fun y hy => ?_
        have so := (List.mem_filter.mp hy).2
        grind
      rw [others] at rest
      rw [List.filter_cons_of_neg (by simp [hx]), List.eraseDups_cons,
        List.filter_cons_of_neg (by simp [hx]), rest]
termination_by xs => xs.length
decreasing_by exact Nat.lt_succ_of_le (List.length_filter_le _ _)

theorem eraseDups_eq_self : {xs : List α} → (h : xs.Nodup) → xs.eraseDups = xs
  | [], _ => by simp
  | x :: xs, h => by
    obtain ⟨new, rest⟩ := List.nodup_cons.mp h
    have others : xs.filter (fun y => !y == x) = xs := by
      refine List.filter_eq_self.mpr fun y hy => ?_
      simp [ne_of_mem_of_not_mem hy new]
    rw [List.eraseDups_cons, others, eraseDups_eq_self rest]

/-- What is kept of a list are the first of things that are equal. -/
theorem pairwise_idxOf_eraseDups (xs : List α) :
    xs.eraseDups.Pairwise fun x y => xs.idxOf x < xs.idxOf y := by
  induction xs using List.reverseRecOn with
  | nil => simp
  | append_singleton xs last ih =>
    have kept : xs.eraseDups.Pairwise fun x y =>
        (xs ++ [last]).idxOf x < (xs ++ [last]).idxOf y := by
      refine ih.imp_of_mem fun hx hy lt => ?_
      rwa [List.idxOf_append_of_mem (List.mem_eraseDups.mp hx),
        List.idxOf_append_of_mem (List.mem_eraseDups.mp hy)]
    by_cases old : last ∈ xs
    · simpa [List.eraseDups_append, List.removeAll, old] using kept
    · have new : (xs ++ [last]).eraseDups = xs.eraseDups ++ [last] := by
        simp [List.eraseDups_append, List.removeAll, old, List.eraseDups_cons]
      rw [new]
      refine List.pairwise_append.mpr ⟨kept, List.pairwise_singleton _ _, fun x hx y hy => ?_⟩
      obtain rfl := List.mem_singleton.mp hy
      have before := List.mem_eraseDups.mp hx
      have := List.idxOf_lt_length_of_mem before
      rw [List.idxOf_append_of_mem before, List.idxOf_append, if_neg old]
      omega

/-- Where related things are equal at the same places, each can be kept once on either side. -/
theorem forall₂_eraseDups (same : ∀ {x x' y y'}, R x y → R x' y' → (x = x' ↔ y = y')) :
    ∀ {xs : List α} {ys : List β}, List.Forall₂ R xs ys →
      List.Forall₂ R xs.eraseDups ys.eraseDups
  | [], [], .nil => by simp
  | x :: xs, y :: ys, .cons related rest => by
    rw [List.eraseDups_cons, List.eraseDups_cons]
    refine .cons related (forall₂_eraseDups same (List.rel_filter ?_ rest))
    intro x' y' related'
    simp [same related' related]
termination_by xs => xs.length
decreasing_by exact Nat.lt_succ_of_le (List.length_filter_le _ _)

/-- One of the things in a list is so, each counted once, if and only if they are all the same. -/
theorem countP_eraseDups_eq_one_iff : xs.eraseDups.countP p = 1 ↔ ∃! x, x ∈ xs ∧ p x = true := by
  have mem (x : α) : x ∈ xs.eraseDups.filter p ↔ x ∈ xs ∧ p x = true := by simp
  have nodup : (xs.eraseDups.filter p).Nodup := (nodup_eraseDups xs).filter p
  rw [List.countP_eq_length_filter, List.length_eq_one_iff]
  constructor
  · rintro ⟨x, only⟩
    refine ⟨x, (mem x).mp (by simp [only]), fun y hy => ?_⟩
    simpa [only] using (mem y).mpr hy
  · rintro ⟨x, hx, unique⟩
    refine ⟨x, List.perm_singleton.mp ((List.perm_ext_iff_of_nodup nodup (by simp)).mpr ?_)⟩
    intro y
    rw [mem, List.mem_singleton]
    exact ⟨unique y, fun h => h ▸ hx⟩

end Worldsmith
