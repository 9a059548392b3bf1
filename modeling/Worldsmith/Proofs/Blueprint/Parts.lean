import Worldsmith.Proofs.Blueprint.Tasks

/-!
# Parts that are made

The parts of a being are made while what else it is is still being written down, and so are the
parts of those. So what work on a being does is said of it as a whole: whatever is new in the end
is a part of something, whatever has been expanded meanwhile has its parts, and nothing else has
been given any. This is kept from one task to the next, in whatever order they are nested.

## Main definitions

* `Blueprint.FitsInto` — a being is fit for being a part of another.
* `Blueprint.Builds` — what work on a being does.
* `Blueprint.Brings` — what making a new being and its parts does.

## Main statements

* `Blueprint.Brings.addPart` — a being whose parts have been made becomes a part itself.
-/

namespace Worldsmith

namespace Blueprint

variable {b b' last : Blueprint} {i child : ℕ} {kind : Id .kind} {part : Id .part} {being : Being}

/-- Whether a being could be of a kind that has a part. -/
def CouldHave (b : Blueprint) (i : ℕ) (part : Id .part) : Prop :=
  ∃ kind, b.couldBe i kind = true ∧ part ∈ (b.world.kind kind).parts

/-- Whether a being is fit for being a part of another: it comes later, is within it, one further
in but not too far, and the other could have such a part. -/
structure FitsInto (b : Blueprint) (child i : ℕ) (part : Id .part) : Prop where
  later : i < child
  lt_size : child < b.beings.size
  container : (b.being child).container = some (i, part)
  depth : (b.being child).depth = (b.being i).depth + 1
  shallow : (b.being i).depth < maxPartDepth
  could : b.CouldHave i part

/-- Whether a part of a being has been made. -/
def HasPart (b : Blueprint) (i : ℕ) (part : Id .part) : Prop :=
  ∃ child, (part, child) ∈ (b.being i).parts

/-- Whether a being could be of a kind, and has been made the parts that members of the kind have
unless it is as far in as parts can be. -/
structure Fitted (b : Blueprint) (i : ℕ) (kind : Id .kind) : Prop where
  lt_size : i < b.beings.size
  could : b.couldBe i kind = true
  made : (b.being i).depth < maxPartDepth → ∀ part ∈ (b.world.kind kind).parts, b.HasPart i part

theorem CouldHave.mono (could : b.CouldHave i part) (lasts : b.Survives b')
    (hi : i < b.beings.size) : b'.CouldHave i part := by
  obtain ⟨kind, could, mem⟩ := could
  exact ⟨kind, lasts.couldBe_eq hi kind ▸ could, lasts.world.symm ▸ mem⟩

theorem FitsInto.mono (fits : b.FitsInto child i part) (lasts : b.Survives b') :
    b'.FitsInto child i part := by
  have hi := fits.later.trans fits.lt_size
  refine ⟨fits.later, lasts.lt_size fits.lt_size, ?_, ?_, ?_, fits.could.mono lasts hi⟩
  · exact (lasts.container_eq fits.lt_size).trans fits.container
  · rw [lasts.depth_eq fits.lt_size, lasts.depth_eq hi, fits.depth]
  · exact (lasts.depth_eq hi).trans_lt fits.shallow

theorem Fitted.mono (fitted : b.Fitted i kind) (lasts : b.Survives b')
    (kept : (b.being i).parts ⊆ (b'.being i).parts) : b'.Fitted i kind := by
  refine ⟨lasts.lt_size fitted.lt_size,
    (lasts.couldBe_eq fitted.lt_size kind).trans fitted.could, fun shallow part mem => ?_⟩
  rw [lasts.depth_eq fitted.lt_size] at shallow
  obtain ⟨child, made⟩ := fitted.made shallow part (lasts.world ▸ mem)
  exact ⟨child, kept made⟩

/-! ## Building -/

/-- What work on a being does: it is given parts, each of them once, and these are given theirs.
Whatever is new in the end is a part of something, and all memberships that have been expanded have
their parts made. Other beings are left alone. -/
structure Builds (b : Blueprint) (i : ℕ) (b' : Blueprint) : Prop where
  lasts : b.Survives b'
  requested : b'.requested = b.requested
  kept : ∀ j, (b.being j).parts ⊆ (b'.being j).parts
  others : ∀ j < b.beings.size, j ≠ i → (b'.being j).parts = (b.being j).parts
  apart : ∀ j, ((b.being j).parts.map Prod.fst).Nodup → ((b'.being j).parts.map Prod.fst).Nodup
  fits : ∀ j part child, (part, child) ∈ (b'.being j).parts →
    (part, child) ∈ (b.being j).parts ∨ b'.FitsInto child j part
  fitted : ∀ j kind, (j, kind) ∈ b'.expanded → (j, kind) ∈ b.expanded ∨ b'.Fitted j kind
  placed : ∀ child < b'.beings.size, child < b.beings.size ∨
    ∃ j part, (part, child) ∈ (b'.being j).parts

theorem Still.builds (h : b.Still b') (i : ℕ) : b.Builds i b' where
  lasts := h.survives
  requested := h.requested
  kept j := h.parts j ▸ List.Subset.refl _
  others j _ _ := h.parts j
  apart j nodup := h.parts j ▸ nodup
  fits j _ _ mem := .inl (h.parts j ▸ mem)
  fitted _ _ mem := .inl (h.expanded ▸ mem)
  placed _ lt := .inl (h.size ▸ lt)

namespace Builds

theorem refl (b : Blueprint) (i : ℕ) : b.Builds i b := (Still.refl b).builds i

theorem trans (h : b.Builds i b') (g : b'.Builds i last) : b.Builds i last where
  lasts := h.lasts.trans g.lasts
  requested := g.requested.trans h.requested
  kept j := List.Subset.trans (h.kept j) (g.kept j)
  others j lt other := (g.others j (h.lasts.lt_size lt) other).trans (h.others j lt other)
  apart j nodup := g.apart j (h.apart j nodup)
  fits j part child mem := by
    rcases g.fits j part child mem with mem | fits
    · exact (h.fits j part child mem).imp_right fun fits => fits.mono g.lasts
    · exact .inr fits
  fitted j kind mem := by
    rcases g.fitted j kind mem with mem | fitted
    · exact (h.fitted j kind mem).imp_right fun fitted => fitted.mono g.lasts (g.kept j)
    · exact .inr fitted
  placed child lt := by
    rcases g.placed child lt with lt | placed
    · exact (h.placed child lt).imp_right fun ⟨j, part, mem⟩ => ⟨j, part, g.kept j mem⟩
    · exact .inr placed

/-- A membership may be marked as asserted before it is. -/
theorem of_mark_asserted {m : ℕ × Id .kind}
    (h : Builds { b with asserted := b.asserted.insert m } i b') : b.Builds i b' :=
  { h with lasts := { h.lasts with
      asserted := fun _ mem => h.lasts.asserted _ (Std.HashSet.mem_insert.mpr (.inr mem)) } }

/-- A membership may be marked as expanded before its parts are made, as long as they are in the
end. -/
theorem of_mark_expanded (h : Builds { b with expanded := b.expanded.insert (i, kind) } i b')
    (fitted : b'.Fitted i kind) : b.Builds i b' :=
  { h with
    lasts := { h.lasts with
      expanded := fun _ mem => h.lasts.expanded _ (Std.HashSet.mem_insert.mpr (.inr mem)) }
    fitted := fun j other mem => (h.fitted j other mem).elim (of_mem_insert fitted j other) .inr }

end Builds

/-! ## Making a part -/

/-- Put a being in the next place. -/
def push (b : Blueprint) (being : Being) (counters : Std.HashMap String ℕ) : Blueprint :=
  { b with beings := b.beings.push being, counters := counters }

section Push

variable {counters : Std.HashMap String ℕ}

theorem size_push : (b.push being counters).beings.size = b.beings.size + 1 :=
  Array.size_push being

theorem survives_push : b.Survives (b.push being counters) where
  world := rfl
  size_le := size_push ▸ Nat.le_succ _
  essence _ hi := congrArg Being.essence (being_push_of_lt hi)
  asserted _ := id
  expanded _ := id

theorem being_push : (b.push being counters).being b.beings.size = being :=
  being_push_self b being

/-- A new being brings no parts along. -/
theorem parts_push (bare : being.parts = []) (j : ℕ) :
    ((b.push being counters).being j).parts = (b.being j).parts := by
  rcases Nat.lt_trichotomy j b.beings.size with lt | rfl | gt
  · exact congrArg Being.parts (being_push_of_lt lt)
  · rw [being_push, bare, being_of_size_le (Nat.le_refl _)]
    rfl
  · rw [being_of_size_le gt.le, being_of_size_le (size_push ▸ Nat.succ_le_of_lt gt)]

/-- What putting a bare being in the next place and making its parts does. All else that is new in
the end is a part of something. -/
structure Brings (b : Blueprint) (being : Being) (b' : Blueprint) : Prop where
  lasts : b.Survives b'
  requested : b'.requested = b.requested
  lt_size : b.beings.size < b'.beings.size
  essence : (b'.being b.beings.size).essence = being.essence
  kept : ∀ j, (b.being j).parts ⊆ (b'.being j).parts
  others : ∀ j < b.beings.size, (b'.being j).parts = (b.being j).parts
  apart : ∀ j, ((b.being j).parts.map Prod.fst).Nodup → ((b'.being j).parts.map Prod.fst).Nodup
  fits : ∀ j part child, (part, child) ∈ (b'.being j).parts →
    (part, child) ∈ (b.being j).parts ∨ b'.FitsInto child j part
  fitted : ∀ j kind, (j, kind) ∈ b'.expanded → (j, kind) ∈ b.expanded ∨ b'.Fitted j kind
  placed : ∀ child < b'.beings.size, child < b.beings.size ∨ child = b.beings.size ∨
    ∃ j part, (part, child) ∈ (b'.being j).parts

theorem Builds.brings (h : (b.push being counters).Builds b.beings.size b')
    (bare : being.parts = []) : b.Brings being b' := by
  have pushed : b.Survives (b.push being counters) := survives_push
  have new : b.beings.size < (b.push being counters).beings.size :=
    size_push ▸ Nat.lt_succ_self _
  refine ⟨pushed.trans h.lasts, h.requested, h.lasts.lt_size new, ?_, fun j => ?_, fun j lt => ?_,
    fun j nodup => ?_, fun j part child mem => ?_, h.fitted, fun child lt => ?_⟩
  · exact (h.lasts.essence _ new).trans (congrArg Being.essence being_push)
  · exact parts_push bare j ▸ h.kept j
  · exact (h.others j (pushed.lt_size lt) lt.ne).trans (parts_push bare j)
  · exact h.apart j (by rwa [parts_push bare])
  · rw [← parts_push bare j]
    exact h.fits j part child mem
  · rcases h.placed child lt with lt | placed
    · rw [size_push] at lt
      exact (Nat.lt_succ_iff_lt_or_eq.mp lt).imp_right .inl
    · exact .inr (.inr placed)

end Push

/-! ## Entries -/

/-- Put an entry after the parts of a being. -/
def addEntry (i : ℕ) (entry : Id .part × ℕ) (b : Blueprint) : Blueprint :=
  b.modifyBeing i fun being => { being with parts := being.parts ++ [entry] }

section Entry

variable {entry : Id .part × ℕ} {j : ℕ}

theorem keeps_addEntry : b.Keeps (b.addEntry i entry) := keeps_modifyBeing b i fun _ => rfl

theorem survives_addEntry : b.Survives (b.addEntry i entry) :=
  ⟨keeps_addEntry.world, keeps_addEntry.size.ge, fun j _ => keeps_addEntry.essence j, fun _ => id,
    fun _ => id⟩

theorem parts_addEntry_self (hi : i < b.beings.size) :
    ((b.addEntry i entry).being i).parts = (b.being i).parts ++ [entry] := by
  simp [Blueprint.being, addEntry, modifyBeing, hi, Array.getElem_modify]

theorem parts_addEntry_of_ne (other : i ≠ j) :
    ((b.addEntry i entry).being j).parts = (b.being j).parts := by
  simp [Blueprint.being, addEntry, modifyBeing, Array.getD_eq_getD_getElem?,
    Array.getElem?_modify, other]

theorem parts_subset_addEntry (hi : i < b.beings.size) (j : ℕ) :
    (b.being j).parts ⊆ ((b.addEntry i entry).being j).parts := by
  by_cases same : i = j
  · subst same
    rw [parts_addEntry_self hi]
    exact List.subset_append_left _ _
  · rw [parts_addEntry_of_ne same]
    exact List.Subset.refl _

end Entry

/-- A new being that has been made for it is fit for being a part. -/
theorem Brings.fitsInto (h : b.Brings being b') (hi : i < b.beings.size)
    (shallow : (b.being i).depth < maxPartDepth) (could : b.CouldHave i part)
    (within : being.container = some (i, part)) (deeper : being.depth = (b.being i).depth + 1) :
    b'.FitsInto b.beings.size i part := by
  have container : (b'.being b.beings.size).container = being.container :=
    (congrArg Being.container h.essence :)
  have depth : (b'.being b.beings.size).depth = being.depth := (congrArg Being.depth h.essence :)
  refine ⟨hi, h.lt_size, container.trans within, ?_, ?_, could.mono h.lasts hi⟩
  · rw [depth, deeper, h.lasts.depth_eq hi]
  · exact (h.lasts.depth_eq hi).trans_lt shallow

/-- A being that has been put within another becomes one of its parts, once its own parts have been
made. -/
theorem Brings.addPart (h : b.Brings being b') (fits : b'.FitsInto b.beings.size i part)
    (fresh : part ∉ (b.being i).parts.map Prod.fst) :
    let last := b'.addEntry i (part, b.beings.size)
    b.Builds i last ∧ last.HasPart i part := by
  intro last
  have hi := fits.later.trans fits.lt_size
  have after : b'.Survives last := survives_addEntry
  have grown (j : ℕ) : (b'.being j).parts ⊆ (last.being j).parts := parts_subset_addEntry hi j
  have mine : (last.being i).parts = (b.being i).parts ++ [(part, b.beings.size)] := by
    rw [parts_addEntry_self hi, h.others i fits.later]
  have made : (part, b.beings.size) ∈ (last.being i).parts :=
    mine ▸ List.mem_append_right _ List.mem_cons_self
  have theirs {j : ℕ} (other : i ≠ j) : (last.being j).parts = (b'.being j).parts :=
    parts_addEntry_of_ne other
  refine ⟨⟨h.lasts.trans after, h.requested, ?_, ?_, ?_, ?_, ?_, ?_⟩, b.beings.size, made⟩
  · exact fun j => List.Subset.trans (h.kept j) (grown j)
  · exact fun j lt other => (theirs other.symm).trans (h.others j lt)
  · intro j nodup
    by_cases same : i = j
    · subst same
      rw [mine, List.map_append]
      exact nodup.append (List.nodup_singleton _) (List.disjoint_singleton.mpr fresh)
    · exact theirs same ▸ h.apart j nodup
  · intro j part' child mem
    by_cases same : i = j
    · subst same
      rcases List.mem_append.mp (mine ▸ mem) with mem | mem
      · exact .inl mem
      · cases List.mem_singleton.mp mem
        exact .inr (fits.mono after)
    · exact (h.fits j part' child (theirs same ▸ mem)).imp_right fun fits => fits.mono after
  · exact fun j kind mem =>
      (h.fitted j kind mem).imp_right fun fitted => fitted.mono after (grown j)
  · intro child lt
    rcases h.placed child (keeps_addEntry.size ▸ lt) with lt | rfl | ⟨j, part', mem⟩
    · exact .inl lt
    · exact .inr ⟨i, part, made⟩
    · exact .inr ⟨j, part', grown j mem⟩

end Blueprint

end Worldsmith
