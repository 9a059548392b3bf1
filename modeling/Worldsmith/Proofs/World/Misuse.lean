import Worldsmith.Proofs.World.Edits

/-!
# Edits are no misuse

An edit of a world is refused for what it says, never because something is missing that it should
have brought along. The one edit that could be, to make a kind without a name, is given both numbers
of a name wherever it is made.

## Main definitions

* `Result.Fair` — a result is not the complaint that something has been misused.
* `Edit.Fair` — an edit never gives such a complaint.
-/

namespace Worldsmith

/-- Whether a result is not the complaint that something has been misused. -/
def Result.Fair {α : Type} (result : Except Error α) : Prop :=
  ∀ misuse, result ≠ .error (.misuse misuse)

namespace Result.Fair

variable {α β : Type}

theorem ok (a : α) : Fair (.ok a) := nofun

/-- What went wrong is no misuse, whatever was to come of it. -/
theorem error {error : Error} (fair : Fair (.error error : Except Error α)) :
    Fair (.error error : Except Error β) :=
  fun misuse refused => fair misuse (congrArg _ (Except.error.inj refused))

theorem bind {result : Except Error α} {next : α → Except Error β} (first : Fair result)
    (rest : ∀ a, result = .ok a → Fair (next a)) : Fair (result >>= next) := by
  cases result with
  | ok a => exact rest a rfl
  | error => exact first.error

theorem mapM {xs : List α} {f : α → Except Error β} (each : ∀ x ∈ xs, Fair (f x)) :
    Fair (xs.mapM f) := by
  induction xs with
  | nil => exact ok []
  | cons x xs ih =>
    obtain ⟨first, others⟩ := List.forall_mem_cons.mp each
    rw [List.mapM_cons]
    exact first.bind fun y _ => (ih others).bind fun ys _ => ok _

theorem foldlM {xs : List β} {f : α → β → Except Error α} (each : ∀ a, ∀ x ∈ xs, Fair (f a x))
    (a : α) : Fair (xs.foldlM f a) := by
  induction xs generalizing a with
  | nil => exact ok a
  | cons x xs ih =>
    rw [List.foldlM_cons]
    exact (each a x List.mem_cons_self).bind fun a' _ =>
      ih (fun a x mem => each a x (List.mem_cons_of_mem _ mem)) a'

end Result.Fair

namespace Edit

variable {α β : Type}

/-- Whether an edit never gives the complaint that something has been misused. -/
def Fair (edit : Edit α) : Prop := ∀ world, Result.Fair (edit.perform world).1

namespace Fair

theorem of_pure (a : α) : Fair (pure a : Edit α) := fun _ => .ok a

theorem of_result {result : Except Error α} (fair : Result.Fair result) :
    Fair (liftM result : Edit α) := by
  cases result with
  | ok a => exact of_pure a
  | error error => exact fun _ => fair

theorem of_contradict (contradiction : Contradiction) :
    Fair (contradict contradiction : Edit α) := fun _ => nofun

theorem of_grammatical (result : Except GrammarError α) : Fair (grammatical result) := by
  cases result with
  | ok a => exact of_pure a
  | error error => exact fun _ => nofun

theorem of_modify (f : World → World) : Fair (modify f : Edit PUnit) := fun _ => .ok ()

theorem of_set (world : World) : Fair (set world : Edit PUnit) := fun _ => .ok ()

/-- The second of two edits may rely on what the first one leads to. -/
theorem bind_of_leads {edit : Edit α} {next : α → Edit β} {good : α → Prop} (first : Fair edit)
    (leads : Leads (fun _ => True) edit fun a _ => good a) (rest : ∀ a, good a → Fair (next a)) :
    Fair (edit >>= next) := by
  intro world
  rw [perform_bind]
  have fair := first world
  have leads := leads world trivial
  generalize edit.perform world = performed at fair leads
  obtain ⟨outcome, later⟩ := performed
  cases outcome with
  | ok a => exact rest a (leads a later rfl) later
  | error => exact fair.error

theorem bind {edit : Edit α} {next : α → Edit β} (first : Fair edit)
    (rest : ∀ a, Fair (next a)) : Fair (edit >>= next) := by
  have leads : Leads (fun _ => True) edit fun _ _ => True := fun _ _ _ _ _ => trivial
  exact first.bind_of_leads leads fun a _ => rest a

theorem of_lift {result : Except Error α} {next : α → Edit β} (first : Result.Fair result)
    (rest : ∀ a, result = .ok a → Fair (next a)) :
    Fair ((liftM result : Edit α) >>= next) := by
  cases result with
  | ok a => exact rest a rfl
  | error => exact fun _ => first.error

theorem of_get {next : World → Edit β} (rest : ∀ world, Fair (next world)) :
    Fair (get >>= next) :=
  fun world => rest world world

theorem forM (xs : List α) {f : α → Edit PUnit} (each : ∀ a ∈ xs, Fair (f a)) :
    Fair (xs.forM f) := by
  induction xs with
  | nil => exact of_pure ()
  | cons a rest ih =>
    obtain ⟨first, others⟩ := List.forall_mem_cons.mp each
    exact first.bind fun _ => ih others

theorem mapM (xs : List α) {f : α → Edit β} (each : ∀ a ∈ xs, Fair (f a)) :
    Fair (xs.mapM f) := by
  induction xs with
  | nil => exact of_pure []
  | cons a rest ih =>
    obtain ⟨first, others⟩ := List.forall_mem_cons.mp each
    rw [List.mapM_cons]
    exact first.bind fun _ => (ih others).bind fun _ => of_pure _

end Fair

/-! ## Names and new things -/

theorem fair_register (name : Name) (concept : Concept) (form : WordForm) :
    Fair (register name concept form) := by
  refine .of_get fun world => ?_
  split
  · dsimp only
    split_ifs
    · exact .bind (.of_contradict _) fun _ => .of_modify _
    · exact .of_modify _
  · exact .of_modify _

theorem fair_addKind (singular plural : Name) :
    Fair (addKind (some singular) (some plural)) := by
  refine .bind (.of_pure _) fun forms => .of_get fun world => ?_
  dsimp only
  split_ifs
  · exact (fair_register _ _ _).bind fun _ => .bind (.of_modify _) fun _ => .of_pure _
  · exact (fair_register _ _ _).bind fun _ => (fair_register _ _ _).bind fun _ =>
      .bind (.of_modify _) fun _ => .of_pure _

theorem fair_setKindForm (id : Id .kind) (name : Name) (number : GrammaticalNumber) :
    Fair (setKindForm id name number) := by
  refine .of_get fun world => ?_
  dsimp only
  refine .bind (.of_modify _) fun _ => ?_
  split_ifs
  · exact (fair_register _ _ _).bind fun _ => .of_modify _
  · exact .bind (.of_modify _) fun _ => (fair_register _ _ _).bind fun _ => .of_modify _

theorem fair_addAdjective (name : Name) : Fair (addAdjective name) :=
  .of_get fun _ => (fair_register _ _ _).bind fun _ => .bind (.of_modify _) fun _ => .of_pure _

theorem fair_addVerb (base : Name) : Fair (addVerb base) :=
  .bind (.of_grammatical _) fun _ => .of_get fun _ => (fair_register _ _ _).bind fun _ =>
    (fair_register _ _ _).bind fun _ => (fair_register _ _ _).bind fun _ =>
      .bind (.of_modify _) fun _ => .of_pure _

theorem fair_addIndividual (name : Name) : Fair (addIndividual name) :=
  .of_get fun _ => (fair_register _ _ _).bind fun _ => .bind (.of_modify _) fun _ => .of_pure _

/-! ## Kinds and signatures -/

theorem fair_declareSuperkind (sub parent : Id .kind) : Fair (declareSuperkind sub parent) := by
  refine .of_get fun world => ?_
  split_ifs
  · exact .of_contradict _
  · exact .of_set _
  · exact .of_pure ()

theorem fair_widen (verb : Id .verb) (existing : Option (Id .kind)) (proposed : Id .kind) :
    Fair (widen verb existing proposed) := by
  unfold widen
  split
  · exact .of_pure _
  · refine .of_get fun world => ?_
    split
    · exact .of_pure _
    · exact .of_contradict _

theorem fair_declareSignature (verb : Id .verb) (subject object : Id .kind) :
    Fair (declareSignature verb subject object) :=
  .of_get fun _ => (fair_widen _ _ _).bind fun _ => (fair_widen _ _ _).bind fun _ => .of_modify _

end Edit

end Worldsmith
