import Worldsmith.Proofs.Blueprint.Beings
import Worldsmith.Proofs.Blueprint.Quiet

/-!
# What tasks call for

A task calls for others in places that its own work does not depend on. In between it makes
propositions, writes down constraints and records properties, and all of that leaves alone which
beings there are, what they are parts of, and what has been asserted or expanded.

## Main definitions

* `Blueprint.Still` — which beings there are and their parts are the same, and all memberships.
* `Blueprint.workBy` — one step of the work, given how to do what it calls for.

## Main statements

* `Blueprint.assertMembership_eq`, `Blueprint.expandMembership_eq` — where a task calls for others.
-/

namespace Worldsmith

namespace Blueprint

variable {b b' last : Blueprint} {i : ℕ} {kind : Id .kind} {member : Literal}

/-! ## Steps between tasks -/

/-- Whether beings are the same except for their properties, and what has been requested, asserted
and expanded is the same. -/
structure Still (b b' : Blueprint) : Prop where
  world : b'.world = b.world
  size : b'.beings.size = b.beings.size
  essence : ∀ i, (b'.being i).essence = (b.being i).essence
  parts : ∀ i, (b'.being i).parts = (b.being i).parts
  requested : b'.requested = b.requested
  asserted : b'.asserted = b.asserted
  expanded : b'.expanded = b.expanded

namespace Still

theorem refl (b : Blueprint) : b.Still b := ⟨rfl, rfl, fun _ => rfl, fun _ => rfl, rfl, rfl, rfl⟩

theorem trans (h : b.Still b') (g : b'.Still last) : b.Still last where
  world := g.world.trans h.world
  size := g.size.trans h.size
  essence i := (g.essence i).trans (h.essence i)
  parts i := (g.parts i).trans (h.parts i)
  requested := g.requested.trans h.requested
  asserted := g.asserted.trans h.asserted
  expanded := g.expanded.trans h.expanded

theorem foldl {α : Type} {f : Blueprint → α → Blueprint} (still : ∀ b x, Still b (f b x))
    (xs : List α) (b : Blueprint) : b.Still (xs.foldl f b) := by
  induction xs generalizing b with
  | nil => exact refl b
  | cons x xs ih => exact (still b x).trans (ih (f b x))

theorem survives (h : b.Still b') : b.Survives b' :=
  ⟨h.world, Nat.le_of_eq h.size.symm, fun i _ => h.essence i, fun _ => h.asserted ▸ id,
    fun _ => h.expanded ▸ id⟩

end Still

theorem Quiet.still (h : b.Quiet b') : b.Still b' where
  world := h.world
  size := congrArg Array.size h.beings
  essence i := congrArg Being.essence (h.being i)
  parts i := congrArg Being.parts (h.being i)
  requested := by rw [h]
  asserted := by rw [h]
  expanded := by rw [h]

/-- A step that only changes the properties of a being. -/
theorem still_modifyBeing (b : Blueprint) (i : ℕ) {f : Being → Being}
    (keeps : ∀ being, (f being).essence = being.essence)
    (parts : ∀ being, (f being).parts = being.parts) : b.Still (b.modifyBeing i f) := by
  refine ⟨rfl, Array.size_modify, (keeps_modifyBeing b i keeps).essence, fun j => ?_, rfl, rfl, rfl⟩
  simp only [being, modifyBeing, Array.getD_eq_getD_getElem?, Array.getElem?_modify]
  split
  · cases b.beings[j]? <;> simp [parts]
  · rfl

theorem still_addProperty (i : ℕ) (member : Literal) (b : Blueprint) (id : Id .property) :
    b.Still (addProperty i member b id) := by
  obtain quiet | ⟨b₁, v, quiet, recorded⟩ := addProperty_cases i member b id
  · exact quiet.still
  · rw [recorded]
    exact quiet.still.trans (still_modifyBeing b₁ i (fun _ => rfl) fun _ => rfl)

/-! ## Where tasks call for others -/

/-- Do one task, and what it calls for as told. -/
def workBy (perform : Task → Blueprint → Blueprint) : Task → Blueprint → Blueprint
  | .declare i kind, b =>
    if b.asserted.contains (i, kind) then b
    else assertMembership perform i kind { b with asserted := b.asserted.insert (i, kind) }
  | .expand i kind, b =>
    if b.expanded.contains (i, kind) then b
    else expandMembership perform i kind { b with expanded := b.expanded.insert (i, kind) }
  | .part i id, b =>
    if (b.being i).parts.any (·.1 == id) then b
    else
      let part := b.world.part id
      let depth := (b.being i).depth + 1
      let (child, b) := addBeing perform [part.kind] part.modifiers (some (i, id)) depth b
      b.modifyBeing i fun being => { being with parts := being.parts ++ [(id, child)] }

theorem work_succ (fuel : ℕ) : work (fuel + 1) = workBy (work fuel) := by
  funext task b
  cases task <;> rfl

/-- To assert a membership is to assert those just above, and then to expand it. -/
theorem assertMembership_eq (i : ℕ) (kind : Id .kind) (b : Blueprint) :
    ∃ before, b.Still before ∧ ∀ perform, assertMembership perform i kind b =
      perform (.expand i kind) ((b.world.kind kind).superkinds.foldl
        (fun b parent => perform (.declare i parent) b) before) := by
  have quiet := quiet_assertTrait i b ⟨.kind kind, true⟩
  refine ⟨_, quiet.still, fun perform => ?_⟩
  rw [← quiet.world]
  rfl

/-- To expand a membership is to expand those just below and those just above, and then to make the
parts of a being that is not too far in. -/
theorem expandMembership_eq (i : ℕ) (kind : Id .kind) (b : Blueprint) :
    ∃ (before : Blueprint) (imply : Id .kind → Blueprint → Blueprint)
      (after : Blueprint → Blueprint), b.Still before ∧ (∀ parent b, Still b (imply parent b)) ∧
      (∀ b, Still b (after b)) ∧ ∀ perform, expandMembership perform i kind b =
        let below := (b.world.kind kind).subkinds.foldl
          (fun b sub => if b.couldBe i sub then perform (.expand i sub) b else b) before
        let above := (b.world.kind kind).superkinds.foldl
          (fun b parent => perform (.expand i parent) (imply parent b)) below
        if ((after above).being i).depth < maxPartDepth then
          (b.world.kind kind).parts.foldl (fun b part => perform (.part i part) b) (after above)
        else after above := by
  obtain ⟨definition, known⟩ : ∃ definition, b.world.kind kind = definition := ⟨_, rfl⟩
  rw [known]
  have member := quiet_isOf b i kind
  have chosen := quiet_chooseSubkind i (b.isOf i kind).1.positive definition.subkinds
    (b.isOf i kind).2
  have written (b' : Blueprint) := ((Quiet.foldl (fun b adjective => quiet_has b i adjective)
    definition.adjectives b').trans (.foldl (quiet_addImplication i (b.isOf i kind).1.positive)
      definition.implications _)).trans (.foldl
        (quiet_addAlternatives i (b.isOf i kind).1.positive) definition.alternativeSets _)
  refine ⟨_, implySuperkind i (b.isOf i kind).1.positive, _, (member.trans chosen).still,
    fun parent b => (quiet_implySuperkind i _ parent b).still, fun b' => (written b').still.trans
      (.foldl (still_addProperty i (b.isOf i kind).1.positive) definition.properties _),
    fun perform => ?_⟩
  unfold expandMembership
  rw [known]

/-- To declare a being is to assert its kinds, one after another. -/
theorem declare_eq (i : ℕ) (modifiers : List Trait) : ∃ after : Blueprint → Blueprint,
    (∀ b, Still b (after b)) ∧ ∀ perform kinds b, declare perform i kinds modifiers b =
      after (kinds.foldl (fun b kind => perform (.declare i kind) b) b) :=
  ⟨_, fun b => (Quiet.foldl (quiet_assertTrait i) modifiers b).still, fun _ _ _ => rfl⟩

end Blueprint

end Worldsmith
