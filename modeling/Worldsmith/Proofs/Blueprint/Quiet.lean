import Worldsmith.Blueprint.Relations
import Worldsmith.Proofs.Blueprint.Advance

/-!
# Steps that add no being

Most steps in making a blueprint ask for propositions and write down constraints. They leave the
beings alone, and everything that is recorded about them except what has been denied. While beings
are made only `withBeing` adds one, so what it preserves, and no other step can change, is preserved
by all the work on beings.

## Main definitions

* `Blueprint.Quiet` — only the problem and what has been denied have changed.
* `Blueprint.Keeps` — the beings are the same except for their parts and properties.
* `Blueprint.IsInvariant` — what each step in making beings preserves.

## Main statements

* `Blueprint.IsInvariant.work`, `Blueprint.IsInvariant.addRequested` — it is preserved by all tasks
  and by adding what is requested.
-/

namespace Worldsmith

namespace Blueprint

variable {b b' last : Blueprint} {i : Nat} {member premise : Literal}

/-- Whether only the problem and what has been denied have changed. -/
def Quiet (b b' : Blueprint) : Prop :=
  b' = { b with problem := b'.problem, excluded := b'.excluded }

namespace Quiet

theorem refl (b : Blueprint) : b.Quiet b := rfl

theorem trans (h : b.Quiet b') (g : b'.Quiet last) : b.Quiet last := by
  rw [Quiet] at h g ⊢
  rw [h] at g
  exact g

theorem modifyProblem (h : b.Quiet b') (f : Problem → Problem) :
    b.Quiet (b'.modifyProblem f) := by
  rw [Quiet] at h ⊢
  rw [h]
  rfl

theorem foldl {α : Type} {f : Blueprint → α → Blueprint} (quiet : ∀ b x, Quiet b (f b x))
    (xs : List α) (b : Blueprint) : b.Quiet (xs.foldl f b) := by
  induction xs generalizing b with
  | nil => exact refl b
  | cons x xs ih => exact (quiet b x).trans (ih (f b x))

variable (h : b.Quiet b')
include h

theorem world : b'.world = b.world := by rw [h]

theorem beings : b'.beings = b.beings := by rw [h]

theorem being (i : Nat) : b'.being i = b.being i := by
  rw [Blueprint.being, h.beings, Blueprint.being]

theorem relations : b'.relations = b.relations := by rw [h]

theorem relationIndex : b'.relationIndex = b.relationIndex := by rw [h]

theorem counters : b'.counters = b.counters := by rw [h]

theorem relation? (verb : Id .verb) (subject object : Nat) :
    b'.relation? verb subject object = b.relation? verb subject object := by
  rw [Blueprint.relation?, h.relationIndex, Blueprint.relation?]

end Quiet

/-! ## Literals -/

theorem quiet_isOf (b : Blueprint) (i : Nat) (kind : Id .kind) : b.Quiet (b.isOf i kind).2 := by
  rw [isOf_eq]
  dsimp only
  split_ifs
  · rfl
  · rfl

theorem quiet_has (b : Blueprint) (i : Nat) (adjective : Id .adjective) :
    b.Quiet (b.has i adjective).2 := rfl

theorem quiet_literal (b : Blueprint) (i : Nat) (trait : Trait) :
    b.Quiet (b.literal i trait).2 := by
  unfold literal
  split
  · exact quiet_isOf b i _
  · exact quiet_has b i _

theorem quiet_literals (b : Blueprint) (i : Nat) (traits : List Trait) :
    b.Quiet (b.literals i traits).2 := by
  induction traits generalizing b with
  | nil => exact .refl b
  | cons trait rest ih => exact (quiet_literal b i trait).trans (ih _)

theorem quiet_memberships (b : Blueprint) (i : Nat) (kinds : List (Id .kind)) :
    b.Quiet (b.memberships i kinds).2 := by
  induction kinds generalizing b with
  | nil => exact .refl b
  | cons kind rest ih => exact (quiet_isOf b i kind).trans (ih _)

/-! ## What membership entails -/

theorem quiet_assertTrait (i : Nat) (b : Blueprint) (trait : Trait) :
    b.Quiet (assertTrait i b trait) := by
  unfold assertTrait
  exact (quiet_literal b i trait).modifyProblem _

theorem quiet_chooseSubkind (i : Nat) (member : Literal) (subkinds : List (Id .kind))
    (b : Blueprint) : b.Quiet (chooseSubkind i member subkinds b) := by
  unfold chooseSubkind
  split
  · exact .refl b
  · exact (quiet_memberships b i subkinds).modifyProblem _

theorem quiet_implySuperkind (i : Nat) (member : Literal) (parent : Id .kind) (b : Blueprint) :
    b.Quiet (implySuperkind i member parent b) := by
  unfold implySuperkind
  exact (quiet_isOf b i parent).modifyProblem _

theorem quiet_addImplication (i : Nat) (member : Literal) (b : Blueprint)
    (implication : Implication) : b.Quiet (addImplication i member b implication) := by
  unfold addImplication
  exact ((quiet_literals b i implication.conditions).trans
    (quiet_literal _ i implication.consequent)).modifyProblem _

theorem quiet_addAlternatives (i : Nat) (member : Literal) (b : Blueprint)
    (set : AlternativeSet) : b.Quiet (addAlternatives i member b set) := by
  unfold addAlternatives
  exact (quiet_literals b i set.alternatives).modifyProblem _

theorem quiet_addRestriction (i variableIndex : Nat) (b : Blueprint)
    (restriction : MenuRestriction) : b.Quiet (addRestriction i variableIndex b restriction) := by
  unfold addRestriction
  exact (quiet_literals b i restriction.conditions).modifyProblem _

/-! ## Steps that keep the beings -/

/-- Whether the beings are the same except for their parts and properties, and what is recorded of
their names and relations is the same. -/
structure Keeps (b b' : Blueprint) : Prop where
  world : b'.world = b.world
  size : b'.beings.size = b.beings.size
  essence : ∀ i, (b'.being i).essence = (b.being i).essence
  counters : b'.counters = b.counters
  relations : b'.relations = b.relations
  relationIndex : b'.relationIndex = b.relationIndex

theorem Quiet.keeps (h : b.Quiet b') : b.Keeps b' :=
  ⟨h.world, congrArg Array.size h.beings, fun i => congrArg Being.essence (h.being i), h.counters,
    h.relations, h.relationIndex⟩

namespace Keeps

theorem refl (b : Blueprint) : b.Keeps b := ⟨rfl, rfl, fun _ => rfl, rfl, rfl, rfl⟩

theorem trans (h : b.Keeps b') (g : b'.Keeps last) : b.Keeps last where
  world := g.world.trans h.world
  size := g.size.trans h.size
  essence i := (g.essence i).trans (h.essence i)
  counters := g.counters.trans h.counters
  relations := g.relations.trans h.relations
  relationIndex := g.relationIndex.trans h.relationIndex

theorem foldl {α : Type} {f : Blueprint → α → Blueprint} (keeps : ∀ b x, Keeps b (f b x))
    (xs : List α) (b : Blueprint) : b.Keeps (xs.foldl f b) := by
  induction xs generalizing b with
  | nil => exact refl b
  | cons x xs ih => exact (keeps b x).trans (ih (f b x))

theorem name_eq (h : b.Keeps b') (i : Nat) : (b'.being i).name = (b.being i).name := by
  have same := congrArg Being.name (h.essence i)
  exact same

end Keeps

/-- A step that only changes the parts or the properties of a being. -/
theorem keeps_modifyBeing (b : Blueprint) (i : Nat) {f : Being → Being}
    (keeps : ∀ being, (f being).essence = being.essence) : b.Keeps (b.modifyBeing i f) := by
  refine ⟨rfl, Array.size_modify, fun j => ?_, rfl, rfl, rfl⟩
  simp only [being, modifyBeing, Array.getD_eq_getD_getElem?, Array.getElem?_modify]
  split
  · cases b.beings[j]? <;> simp [keeps]
  · rfl

theorem keeps_mark (b : Blueprint) (asserted expanded : Std.HashSet (Nat × Id .kind)) :
    b.Keeps { b with asserted := asserted, expanded := expanded } :=
  ⟨rfl, rfl, fun _ => rfl, rfl, rfl, rfl⟩

/-- A property leaves everything alone, save that it may be recorded with its variable. -/
theorem addProperty_cases (i : Nat) (member : Literal) (b : Blueprint) (id : Id .property) :
    b.Quiet (addProperty i member b id) ∨ ∃ b₁ v, b.Quiet b₁ ∧ addProperty i member b id =
      b₁.modifyBeing i fun being =>
        { being with properties := being.properties ++ [(id, v)] } := by
  unfold addProperty
  split_ifs
  · exact .inl (.refl b)
  dsimp only
  generalize untokenize (b.world.property id).name ++ "(" ++ (b.being i).name ++ ")" = name
  split
  · exact .inl (.refl b)
  case h_2 low high _ =>
    split_ifs
    · exact .inl (.refl b)
    · have made : b.Quiet { b with problem := (b.problem.rangeVariable name low high member).2 } :=
        rfl
      exact .inr ⟨_, _, made, rfl⟩
  case h_3 values restrictions _ =>
    have made : b.Quiet { b with problem := (b.problem.menuVariable name values member).2 } := rfl
    have restricted := made.trans (.foldl (quiet_addRestriction i
      (b.problem.menuVariable name values member).1) restrictions _)
    split
    · exact .inr ⟨_, _, restricted.modifyProblem _, rfl⟩
    · exact .inr ⟨_, _, restricted, rfl⟩

theorem keeps_addProperty (i : Nat) (member : Literal) (b : Blueprint) (id : Id .property) :
    b.Keeps (addProperty i member b id) := by
  obtain quiet | ⟨b₁, v, quiet, recorded⟩ := addProperty_cases i member b id
  · exact quiet.keeps
  · rw [recorded]
    exact quiet.keeps.trans (keeps_modifyBeing b₁ i fun _ => rfl)

/-! ## What all work on beings preserves -/

/-- Put a being in the next place, with a fresh name of the first of its declared kinds. -/
def withBeing (declared : List (Id .kind)) (modifiers : List Trait)
    (container : Option (Nat × Id .part)) (depth : Nat) (b : Blueprint) : Blueprint :=
  let (name, b) := match declared with
    | kind :: _ => b.freshName kind
    | [] => ("thing" ++ (b.beings.size + 1).repr, b)
  { b with
    beings := b.beings.push ⟨name, declared, modifiers, none, container, [], [], depth⟩ }

theorem addBeing_eq (perform : Task → Blueprint → Blueprint) (kinds : List (Id .kind))
    (modifiers : List Trait) (container : Option (Nat × Id .part)) (depth : Nat) (b : Blueprint) :
    addBeing perform kinds modifiers container depth b =
      (b.beings.size, declare perform b.beings.size (declaredKinds b.world kinds modifiers)
        modifiers
          (b.withBeing (declaredKinds b.world kinds modifiers) modifiers container depth)) := by
  unfold addBeing withBeing
  cases declaredKinds b.world kinds modifiers <;> rfl

/-- What no step can change that keeps the beings, and what a new being of some kind does not
change. -/
structure IsInvariant (holds : Blueprint → Prop) : Prop where
  keeps : ∀ {b b' : Blueprint}, b.Keeps b' → holds b → holds b'
  withBeing : ∀ {b : Blueprint} (kind : Id .kind) (modifiers : List Trait)
    (container : Option (Nat × Id .part)) (depth : Nat), holds b →
      holds (b.withBeing (declaredKinds b.world [kind] modifiers) modifiers container depth)

namespace IsInvariant

variable {holds : Blueprint → Prop} (inv : IsInvariant holds)
include inv

section Perform

variable {perform : Task → Blueprint → Blueprint}
  (performs : ∀ task {b : Blueprint}, holds b → holds (perform task b))
include performs

omit inv performs in
theorem foldl {α : Type} {f : Blueprint → α → Blueprint}
    (step : ∀ {b : Blueprint} x, holds b → holds (f b x)) (xs : List α) (h : holds b) :
    holds (xs.foldl f b) := by
  induction xs generalizing b with
  | nil => exact h
  | cons x xs ih => exact ih (step x h)

theorem declare (i : Nat) (kinds : List (Id .kind)) (modifiers : List Trait) (h : holds b) :
    holds (declare perform i kinds modifiers b) :=
  inv.keeps (Quiet.foldl (quiet_assertTrait i) modifiers _).keeps
    (foldl (fun kind => performs (.declare i kind)) kinds h)

theorem addBeing (kind : Id .kind) (modifiers : List Trait) (container : Option (Nat × Id .part))
    (depth : Nat) (h : holds b) :
    holds (addBeing perform [kind] modifiers container depth b).2 := by
  rw [addBeing_eq]
  exact inv.declare performs _ _ _ (inv.withBeing kind modifiers container depth h)

theorem assertMembership (i : Nat) (kind : Id .kind) (h : holds b) :
    holds (assertMembership perform i kind b) := by
  unfold Blueprint.assertMembership
  refine performs _ (foldl (fun parent => performs (.declare i parent)) _ ?_)
  exact inv.keeps ((quiet_isOf b i kind).modifyProblem _).keeps h

theorem expandMembership (i : Nat) (kind : Id .kind) (h : holds b) :
    holds (expandMembership perform i kind b) := by
  unfold Blueprint.expandMembership
  have made := inv.keeps (quiet_isOf b i kind).keeps h
  generalize b.isOf i kind = result at made ⊢
  obtain ⟨p, b₁⟩ := result
  generalize b.world.kind kind = definition
  dsimp only at made ⊢
  have chosen := inv.keeps (quiet_chooseSubkind i p.positive definition.subkinds b₁).keeps made
  have lowered := foldl
    (f := fun b sub => if b.couldBe i sub then perform (.expand i sub) b else b)
    (fun {b} sub h => by
      split_ifs
      · exact performs _ h
      · exact h) definition.subkinds chosen
  have lifted := foldl
    (f := fun b parent => perform (.expand i parent) (implySuperkind i p.positive parent b))
    (fun parent h => performs _ (inv.keeps (quiet_implySuperkind i _ parent _).keeps h))
    definition.superkinds lowered
  have written (b : Blueprint) :=
    ((Quiet.foldl (fun b adjective => quiet_has b i adjective) definition.adjectives b).trans
      (.foldl (quiet_addImplication i p.positive) definition.implications _)).trans
        (.foldl (quiet_addAlternatives i p.positive) definition.alternativeSets _)
  have last := inv.keeps ((written _).keeps.trans
    (.foldl (keeps_addProperty i p.positive) definition.properties _)) lifted
  split_ifs
  · exact foldl (fun part => performs (.part i part)) _ last
  · exact last

end Perform

theorem work (fuel : Nat) (task : Task) (h : holds b) : holds (work fuel task b) := by
  induction fuel generalizing b task with
  | zero => exact h
  | succ fuel ih =>
    have performs (task : Task) {b : Blueprint} : holds b → holds (Blueprint.work fuel task b) :=
      ih task
    cases task with
    | declare i kind =>
      rw [Blueprint.work]
      split_ifs
      · exact h
      · exact inv.assertMembership performs i kind (inv.keeps (keeps_mark b _ _) h)
    | expand i kind =>
      rw [Blueprint.work]
      split_ifs
      · exact h
      · exact inv.expandMembership performs i kind (inv.keeps (keeps_mark b _ _) h)
    | part i id =>
      rw [Blueprint.work]
      split_ifs
      · exact h
      · exact inv.keeps (keeps_modifyBeing _ i fun _ => rfl)
          (inv.addBeing performs (b.world.part id).kind (b.world.part id).modifiers _ _ h)

theorem addRequested (requested : ∀ {b : Blueprint} (requested : List Nat), holds b →
    holds { b with requested := requested }) (request : Request) (count : Nat) (h : holds b) :
    holds (addRequested request count b) := by
  induction count generalizing b with
  | zero => exact h
  | succ count ih =>
    rw [Blueprint.addRequested]
    exact ih (requested _ (inv.addBeing (fun task _ => inv.work _ task) request.kind
      request.modifiers none 0 h))

end IsInvariant

/-! ## Relations -/

theorem quiet_demandTraits (premise : Literal) (i : Nat) (traits : List Trait) (b : Blueprint) :
    b.Quiet (demandTraits premise i traits b) := by
  unfold demandTraits
  exact .foldl (fun b trait => (quiet_literal b i trait).modifyProblem _) traits b

theorem quiet_bothAre (subject object : Nat) (subjectKind objectKind : Id .kind)
    (b : Blueprint) : b.Quiet (bothAre subject object subjectKind objectKind b).2.2 := by
  unfold bothAre
  exact (quiet_isOf b subject subjectKind).trans (quiet_isOf _ object objectKind)

theorem quiet_demandKinds (premise : Literal) (subject object : Nat)
    (subjectKind objectKind : Id .kind) (b : Blueprint) :
    b.Quiet (demandKinds premise subject object subjectKind objectKind b) := by
  unfold demandKinds
  exact (quiet_bothAre subject object subjectKind objectKind b).modifyProblem _

theorem quiet_addLoop (id : Id .verb) (verb : Verb) (subjectKind objectKind : Id .kind)
    (b : Blueprint) (i : Nat) : b.Quiet (addLoop id verb subjectKind objectKind b i) := by
  unfold addLoop
  split
  · exact .refl b
  · split
    · exact .modifyProblem (.refl b) _
    · split
      · exact (quiet_bothAre i i subjectKind objectKind b).modifyProblem _
      · exact .refl b

theorem quiet_addOneWay (id : Id .verb) (b : Blueprint) (pair : Nat × Nat) :
    b.Quiet (addOneWay id b pair) := by
  unfold addOneWay
  split
  · exact .modifyProblem (.refl b) _
  · exact .refl b

theorem quiet_addBounds (id : Id .verb) (verb : Verb) (subjectKind : Id .kind)
    (objects : List Nat) (b : Blueprint) (subject : Nat) :
    b.Quiet (addBounds id verb subjectKind objects b subject) := by
  unfold addBounds
  dsimp only
  split
  · exact .refl b
  · exact (quiet_isOf b subject subjectKind).modifyProblem _

theorem quiet_addGeneral (relation : Relation) (b : Blueprint) (general : Id .verb) :
    b.Quiet (addGeneral relation b general) := by
  unfold addGeneral
  split
  · exact .modifyProblem (.refl b) _
  · exact .modifyProblem (.refl b) _

theorem quiet_addExcluded (relation : Relation) (b : Blueprint) (other : Id .verb) :
    b.Quiet (addExcluded relation b other) := by
  unfold addExcluded
  split
  · exact .refl b
  · split
    · exact .modifyProblem (.refl b) _
    · exact .refl b

theorem quiet_addWays (relation : Relation) (ways : List (Id .verb)) (b : Blueprint) :
    b.Quiet (addWays relation ways b) := by
  unfold addWays
  dsimp only
  split
  · exact .modifyProblem (.refl b) _
  · exact .refl b

end Blueprint

end Worldsmith
