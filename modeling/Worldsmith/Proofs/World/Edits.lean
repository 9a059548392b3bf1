import Mathlib.Tactic.Common
import Worldsmith.World.Edit

/-!
# What edits lead to

An edit is made of smaller ones, one after another. What each of them leads to when it does not
fail is put together to what the whole edit leads to.

## Main definitions

* `Edit.Leads` — an edit that does not fail leads from worlds of some sort to results and worlds of
  some sort.
* `Edit.Preserves` — an edit that does not fail leads from worlds of some sort to such worlds.
* `Edit.Refines` — another edit comes to whatever an edit comes to.
-/

namespace Worldsmith

namespace Edit

variable {α β : Type} {world : World} {before : World → Prop} {between after : α → World → Prop}
  {last : β → World → Prop}

/-- Whether an edit that does not fail leads from worlds of some sort to results and worlds of some
sort. -/
def Leads (before : World → Prop) (edit : Edit α) (after : α → World → Prop) : Prop :=
  ∀ world, before world → ∀ a later, edit.perform world = (.ok a, later) → after a later

theorem perform_get : (get : Edit World).perform world = (.ok world, world) := rfl

theorem perform_bind (edit : Edit α) (next : α → Edit β) : (edit >>= next).perform world =
    match edit.perform world with
    | (.ok a, later) => (next a).perform later
    | (.error error, later) => (.error error, later) := by
  change (ExceptT.bindCont next (edit.perform world).1) (edit.perform world).2 = _
  rcases edit.perform world with ⟨_ | _, _⟩ <;> rfl

namespace Leads

theorem of_pure (a : α) (h : ∀ world, before world → after a world) :
    Leads before (pure a : Edit α) after := by
  rintro world start _ _ ⟨⟩
  exact h world start

theorem of_throw (error : Error) : Leads before (throw error : Edit α) after := by
  rintro world - _ _ ⟨⟩

theorem bind {edit : Edit α} {next : α → Edit β} (first : Leads before edit between)
    (rest : ∀ a, Leads (between a) (next a) last) : Leads before (edit >>= next) last := by
  intro world start b later made
  rw [perform_bind] at made
  split at made
  · rename_i a middle one
    exact rest a middle (first world start a middle one) b later made
  · cases made

theorem of_throw_bind (error : Error) (next : α → Edit β) :
    Leads before (throw error >>= next) last := by
  rintro world - _ _ ⟨⟩

/-- What a statement is about is settled before anything is changed. -/
theorem of_lift {result : Except Error α} {next : α → Edit β}
    (rest : ∀ a, result = .ok a → Leads before (next a) last) :
    Leads before ((liftM result : Edit α) >>= next) last := by
  intro world start b later made
  rw [perform_bind] at made
  cases result with
  | error error => cases made
  | ok a => exact rest a rfl world start b later made

theorem of_get {next : World → Edit β}
    (rest : ∀ world, before world → Leads (· = world) (next world) last) :
    Leads before (get >>= next) last := by
  intro world start b later made
  exact rest world start world rfl b later made

theorem of_set {new : World} {after : PUnit → World → Prop}
    (h : ∀ world, before world → after () new) : Leads before (set new : Edit PUnit) after := by
  rintro world start _ _ ⟨⟩
  exact h world start

theorem of_modify {f : World → World} {after : PUnit → World → Prop}
    (h : ∀ world, before world → after () (f world)) :
    Leads before (modify f : Edit PUnit) after := by
  rintro world start _ _ ⟨⟩
  exact h world start

/-- What an edit leads to may depend on the world that it starts from. -/
theorem of_each {edit : Edit α} {after : α → World → Prop}
    (h : ∀ world, before world → Leads (· = world) edit after) : Leads before edit after :=
  fun world start => h world start world rfl

theorem and {edit : Edit α} {after' : α → World → Prop} (h : Leads before edit after)
    (g : Leads before edit after') :
    Leads before edit fun a world => after a world ∧ after' a world :=
  fun world start a later made => ⟨h world start a later made, g world start a later made⟩

theorem weaken {edit : Edit α} {before' : World → Prop} {after' : α → World → Prop}
    (h : Leads before edit after) (start : ∀ world, before' world → before world)
    (result : ∀ a world, after a world → after' a world) : Leads before' edit after' :=
  fun world first a later made => result a later (h world (start world first) a later made)

end Leads

/-- Whether an edit that does not fail leads from worlds of some sort to worlds of that sort. -/
def Preserves (kept : World → Prop) (edit : Edit α) : Prop :=
  Leads kept edit fun _ => kept

namespace Preserves

variable {kept : World → Prop}

theorem of_pure (a : α) : Preserves kept (pure a : Edit α) := Leads.of_pure a fun _ => id

theorem of_throw (error : Error) : Preserves kept (throw error : Edit α) := Leads.of_throw error

theorem of_result (result : Except Error α) : Preserves kept (liftM result : Edit α) := by
  cases result with
  | ok a => exact of_pure a
  | error error => exact of_throw error

theorem of_grammatical (result : Except GrammarError α) : Preserves kept (grammatical result) := by
  cases result with
  | ok a => exact of_pure a
  | error error => exact of_throw _

theorem of_modify {f : World → World} (h : ∀ world, kept world → kept (f world)) :
    Preserves kept (modify f : Edit PUnit) :=
  Leads.of_modify h

theorem bind {edit : Edit α} {next : α → Edit β} (first : Preserves kept edit)
    (rest : ∀ a, Preserves kept (next a)) : Preserves kept (edit >>= next) :=
  Leads.bind first rest

theorem of_lift {result : Except Error α} {next : α → Edit β}
    (rest : ∀ a, result = .ok a → Preserves kept (next a)) :
    Preserves kept ((liftM result : Edit α) >>= next) :=
  Leads.of_lift rest

theorem of_get {next : World → Edit β} (rest : ∀ world, Preserves kept (next world)) :
    Preserves kept (get >>= next) :=
  Leads.of_get fun world start => (rest world).weaken (fun _ same => same ▸ start) fun _ _ => id

theorem forM (xs : List α) {f : α → Edit PUnit} (each : ∀ a ∈ xs, Preserves kept (f a)) :
    Preserves kept (xs.forM f) := by
  induction xs with
  | nil => exact of_pure ()
  | cons a rest ih =>
    obtain ⟨first, others⟩ := List.forall_mem_cons.mp each
    exact first.bind fun _ => ih others

end Preserves

/-- Whether another edit comes to whatever an edit comes to. -/
def Refines (edit other : Edit α) : Prop :=
  ∀ world a later, edit.perform world = (.ok a, later) → other.perform world = (.ok a, later)

namespace Refines

theorem refl (edit : Edit α) : Refines edit edit := fun _ _ _ made => made

theorem bind {edit other : Edit α} {next next' : α → Edit β} (first : Refines edit other)
    (rest : ∀ a, Refines (next a) (next' a)) : Refines (edit >>= next) (other >>= next') := by
  intro world b later made
  rw [perform_bind] at made ⊢
  split at made
  · rename_i a middle one
    rw [first world a middle one]
    exact rest a middle b later made
  · cases made

theorem of_lift {result other : Except Error α} (same : ∀ a, result = .ok a → other = .ok a) :
    Refines (liftM result : Edit α) (liftM other) := by
  intro world a later made
  cases result with
  | error error => cases made
  | ok a' => rwa [same a' rfl]

end Refines

end Edit

end Worldsmith
