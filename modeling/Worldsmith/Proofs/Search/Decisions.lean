import Worldsmith.Proofs.Logic.Contents
import Worldsmith.Proofs.Search.Soundness
import Worldsmith.Proofs.Search.States

/-!
# Decisions on the trail

A search puts a decision on its stack before it makes it, and to make it takes a step. So wherever a
search stands, each of its decisions is on the trail, at its height, but for the latest one as long
as that is still to be made, and for good if the budget has run out by then. To go back to the
height of a decision is to forget everything since then: what is left is the trail on which the
decision was made.

## Main definitions

* `Stacked` — the decisions of a stack are on a trail, each above the one before it.
* `Announced` — so are all but the latest, which is still to be made.
* `Moment.IsOrderly` — which of these holds, by what a search is about to do.
* `Shift` — what a single step does to a stack and a trail.
* `Moment.PushedAt` — the latest decision of an earlier moment has been on the stack since then.

## Main statements

* `Shift.undo_eq` — a step that leaves a decision on the stack leaves what there was below it.
* `Moment.Step.fits` — each step leads from a moment that is fit to another one.
* `Problem.trail_of_search` — what all moments of all searches have in common.
* `Problem.not_isPlaced_sunAndRain` — the latest decision of a search that has run out of steps need
  not be on the trail.
-/

namespace Worldsmith

variable {stack stack' below : List Decision} {trail trail' : Trail} {decision : Decision}

/-! ## A stack and its trail -/

/-- Whether a decision is on a trail, at its height and with its value. -/
def Decision.IsPlaced (decision : Decision) (trail : Trail) : Prop :=
  trail.order[decision.height]? = some decision.proposition ∧
    trail.at? decision.proposition = some decision.value

/-- Whether a decision can be made next: it is about an open proposition, and as high as the
trail. -/
def Decision.IsDue (decision : Decision) (trail : Trail) : Prop :=
  trail.Open decision.proposition ∧ decision.height = trail.height

/-- Whether a trail is a record on which the decisions of a stack are found, the later the
higher. -/
structure Stacked (stack : List Decision) (trail : Trail) : Prop where
  record : trail.IsRecord
  increasing : stack.Pairwise fun later earlier => earlier.height < later.height
  placed : ∀ decision ∈ stack, decision.IsPlaced trail

/-- Whether the latest decision of a stack is still to be made, and the others are on the trail. -/
inductive Announced : List Decision → Trail → Prop
  | intro {decision : Decision} {stack : List Decision} {trail : Trail}
    (stacked : Stacked stack trail) (due : decision.IsDue trail) :
    Announced (decision :: stack) trail

/-- What holds of a stack and its trail whether or not the latest decision is still to be made. -/
structure Layered (stack : List Decision) (trail : Trail) : Prop where
  record : trail.IsRecord
  increasing : stack.Pairwise fun later earlier => earlier.height < later.height
  height_le : ∀ decision ∈ stack, decision.height ≤ trail.height

namespace Stacked

theorem height_lt (stacked : Stacked stack trail) {decision : Decision}
    (mem : decision ∈ stack) : decision.height < trail.height :=
  (Array.getElem?_eq_some_iff.mp (stacked.placed decision mem).1).1

theorem assign (stacked : Stacked stack trail) {l : Literal} (fresh : trail.Open l.proposition) :
    Stacked stack (trail.assign l) where
  record := stacked.record.assign fresh
  increasing := stacked.increasing
  placed decision mem := by
    obtain ⟨place, value⟩ := stacked.placed decision mem
    refine ⟨?_, Trail.at?_assign_of_eq_some fresh value⟩
    rw [← Array.getElem?_toList] at place ⊢
    rw [Trail.order_assign, List.getElem?_append_left, place]
    exact stacked.height_lt mem

theorem layered (stacked : Stacked stack trail) : Layered stack trail :=
  ⟨stacked.record, stacked.increasing, fun _ mem => (stacked.height_lt mem).le⟩

/-- The trail need not have been gone back on when a decision is taken from the stack. -/
theorem tail (stacked : Stacked (decision :: stack) trail) : Stacked stack trail :=
  ⟨stacked.record, (List.pairwise_cons.mp stacked.increasing).2,
    (List.forall_mem_cons.mp stacked.placed).2⟩

/-- What is left of the trail when the latest decision is taken back: just what it can be made on
again. -/
theorem undo (stacked : Stacked (decision :: stack) trail) :
    Stacked stack (trail.undo decision.height) ∧ decision.IsDue (trail.undo decision.height) := by
  obtain ⟨record, kept⟩ := stacked.record.undo decision.height
  obtain ⟨place, value⟩ := stacked.placed decision List.mem_cons_self
  have below : decision.height < trail.height := stacked.height_lt List.mem_cons_self
  obtain ⟨earlier, increasing⟩ := List.pairwise_cons.mp stacked.increasing
  rw [← Array.getElem?_toList] at place
  refine ⟨⟨record, increasing, fun other mem => ?_⟩, Trail.open_iff.mpr ⟨?_, ?_⟩, ?_⟩
  · obtain ⟨place, value⟩ := stacked.placed other (List.mem_cons_of_mem _ mem)
    rw [← Array.getElem?_toList] at place
    have left : (trail.order.toList.take decision.height)[other.height]? =
        some other.proposition := by
      rw [List.getElem?_take_of_lt (earlier other mem), place]
    rw [Decision.IsPlaced, ← Array.getElem?_toList, Trail.order_undo]
    exact ⟨left, (kept _ (List.mem_of_getElem? left)).trans value⟩
  · rw [Trail.size_undo]
    exact Trail.index_lt_of_isSome (by rw [value]; rfl)
  · -- The proposition is on the trail once, and that is not below the decision.
    rw [← Option.not_isSome_iff_eq_none, ← record.mem_iff, Trail.order_undo]
    intro mem
    obtain ⟨i, inside, same⟩ := List.getElem_of_mem mem
    rw [List.length_take] at inside
    rw [List.getElem_take] at same
    have again : trail.order.toList[i]? = trail.order.toList[decision.height]? := by
      rw [place, List.getElem?_eq_getElem (by omega), same]
    have equal := (List.getElem?_inj (by omega) stacked.record.nodup).mp again
    omega
  · rw [Trail.height, ← Array.length_toList, Trail.order_undo, List.length_take,
      Array.length_toList]
    exact (Nat.min_eq_left below.le).symm

end Stacked

namespace Announced

theorem layered (announced : Announced stack trail) : Layered stack trail := by
  cases announced with
  | intro stacked due =>
    refine ⟨stacked.record, List.pairwise_cons.mpr ⟨fun earlier mem => ?_, stacked.increasing⟩,
      List.forall_mem_cons.mpr ⟨due.2.le, stacked.layered.height_le⟩⟩
    rw [due.2]
    exact stacked.height_lt mem

/-- A decision that is made goes on top of the trail. -/
theorem decide (announced : Announced (decision :: stack) trail) :
    Stacked (decision :: stack) (trail.assign decision.literal) := by
  have layered := announced.layered
  cases announced with
  | intro stacked due =>
    obtain ⟨fresh, height⟩ := due
    refine ⟨layered.record.assign fresh, layered.increasing,
      List.forall_mem_cons.mpr ⟨⟨?_, ?_⟩, (stacked.assign fresh).placed⟩⟩
    · rw [← Array.getElem?_toList, Trail.order_assign, height]
      exact List.getElem?_concat_length
    · rw [Trail.at?_assign fresh]
      exact if_pos rfl

end Announced

/-- What a single step of a search does to its stack and its trail. -/
inductive Shift : List Decision → Trail → List Decision → Trail → Prop
  | stay (stack : List Decision) (trail : Trail) : Shift stack trail stack trail
  | assign {stack : List Decision} {trail : Trail} {l : Literal}
    (fresh : trail.Open l.proposition) : Shift stack trail stack (trail.assign l)
  | push (decision : Decision) (stack : List Decision) (trail : Trail) :
    Shift stack trail (decision :: stack) trail
  | pop (decision : Decision) (stack : List Decision) (trail : Trail) :
    Shift (decision :: stack) trail stack trail
  | drop {height : ℕ} {stack : List Decision} (trail : Trail)
    (above : ∀ decision ∈ stack, decision.height < height) :
    Shift stack trail stack (trail.undo height)
  | flip {height : ℕ} {stack : List Decision} (decision : Decision) (trail : Trail)
    (above : ∀ decision ∈ stack, decision.height < height) :
    Shift stack trail (decision :: stack) (trail.undo height)

namespace Shift

theorem size_eq (shift : Shift stack trail stack' trail') :
    trail'.values.size = trail.values.size := by
  cases shift with
  | stay | push | pop => rfl
  | assign => exact Trail.size_assign _ _
  | drop | flip => exact Trail.size_undo _ _

/-- A step that leaves a decision on the stack leaves what there was below it. -/
theorem undo_eq (shift : Shift stack trail stack' trail') (layered : Layered stack trail)
    (held : decision ∈ stack) : trail'.undo decision.height = trail.undo decision.height := by
  cases shift with
  | stay | push | pop => rfl
  | assign fresh => exact Trail.undo_assign fresh (layered.height_le decision held)
  | drop _ above | flip _ _ above => exact Trail.undo_undo (above decision held).le

end Shift

/-! ## Moments that are fit -/

/-- The propositions that a stage is about. -/
def Stage.propositions : Stage → List Proposition
  | .examine todo queue => todo.flatMap Constraint.propositions ++ queue
  | .force literals todo queue =>
    literals.map Literal.proposition ++ (todo.flatMap Constraint.propositions ++ queue)
  | .takeBack decision => [decision.proposition]
  | .choose | .decide | .retreat | .ended _ => []

namespace Moment

variable {occurrences : Occurrences} {constraints : List Constraint} {order : List Proposition}
  {count : ℕ} {here there : Moment}

/-- All propositions that a search is about at a moment. -/
def propositions (here : Moment) : List Proposition :=
  here.stage.propositions ++ here.stack.map Decision.proposition ++ here.pending ++
    here.trail.order.toList

/-- Whether the decisions of a search are on its trail, by what it is about to do. One that has been
taken from the stack still is; the latest one is not where it is still to be made. The budget may
run out there, or with all of them made. -/
def IsOrderly (here : Moment) : Prop :=
  match here.stage with
  | .decide => Announced here.stack here.trail
  | .takeBack decision => Stacked (decision :: here.stack) here.trail
  | .ended .timeout => Stacked here.stack here.trail ∨ Announced here.stack here.trail
  | _ => Stacked here.stack here.trail

/-- Whether a decision is the latest one, and is still to be made, or has not been made when the
budget has run out. -/
def Awaits (here : Moment) (decision : Decision) : Prop :=
  here.stack.head? = some decision ∧ (here.stage = .decide ∨ here.stage = .ended .timeout) ∧
    decision.IsDue here.trail

namespace IsOrderly

theorem stacked_or_announced (orderly : here.IsOrderly) :
    Stacked here.stack here.trail ∨ (here.stage = .decide ∨ here.stage = .ended .timeout) ∧
      Announced here.stack here.trail := by
  unfold IsOrderly at orderly
  split at orderly
  · rename_i stage
    exact .inr ⟨.inl stage, orderly⟩
  · exact .inl orderly.tail
  · rename_i stage
    exact orderly.imp_right fun announced => ⟨.inr stage, announced⟩
  · exact .inl orderly

theorem layered (orderly : here.IsOrderly) : Layered here.stack here.trail :=
  orderly.stacked_or_announced.elim Stacked.layered fun waits => waits.2.layered

/-- Each decision is on the trail, but for one that is awaited. -/
theorem placed_or_awaits (orderly : here.IsOrderly) (mem : decision ∈ here.stack) :
    decision.IsPlaced here.trail ∨ here.Awaits decision := by
  rcases orderly.stacked_or_announced with stacked | ⟨waits, announced⟩
  · exact .inl (stacked.placed decision mem)
  · obtain ⟨stage, stack, pending, trail, left⟩ := here
    cases announced with
    | intro stacked due =>
      rcases List.mem_cons.mp mem with rfl | mem
      · exact .inr ⟨rfl, waits, due⟩
      · exact .inl (stacked.placed decision mem)

theorem exists_awaits (orderly : here.IsOrderly) (decides : here.stage = .decide) :
    ∃ decision, here.Awaits decision := by
  obtain ⟨stage, stack, pending, trail, left⟩ := here
  subst decides
  cases orderly with
  | intro stacked due => exact ⟨_, rfl, .inl rfl, due⟩

/-- Nothing that a decision is about is out of range. -/
theorem index_lt (orderly : here.IsOrderly) (mem : decision ∈ here.stack) :
    decision.proposition.index < here.trail.values.size := by
  rcases orderly.placed_or_awaits mem with placed | awaits
  · exact Trail.index_lt_of_isSome (by rw [placed.2]; rfl)
  · exact (Trail.open_iff.mp awaits.2.2.1).1

end IsOrderly

/-- What holds wherever a search stands. -/
structure Fits (order : List Proposition) (count : ℕ) (here : Moment) : Prop where
  orderly : here.IsOrderly
  size : here.trail.values.size = count
  staged : ∀ p ∈ here.stage.propositions, p.index < count
  pending : ∀ p ∈ here.pending, p ∈ order

/-- What is made true is open until then. -/
theorem Fits.open_of_force {l : Literal} {literals : List Literal} {todo : List Constraint}
    {queue pending : List Proposition} {left : ℕ}
    (fits : Fits order count ⟨.force (l :: literals) todo queue, stack, pending, trail, left⟩)
    (unknown : trail.value l = none) : trail.Open l.proposition := by
  refine Trail.open_iff.mpr ⟨?_, Assignment.value_eq_none.mp unknown⟩
  rw [fits.size]
  exact fits.staged _ List.mem_cons_self

/-- The only new values are those of open propositions. -/
theorem Step.shift (step : Step occurrences order here there) (fits : Fits order count here) :
    Shift here.stack here.trail there.stack there.trail := by
  cases step with
  | assign unknown => exact .assign (fits.open_of_force unknown)
  | choose => exact .push _ _ _
  | decide =>
    cases fits.orderly with
    | intro stacked due => exact .assign due.1
  | pop => exact .pop _ _ _
  | drop => exact .drop _ (List.pairwise_cons.mp fits.orderly.increasing).1
  | flip => exact .flip _ _ (List.pairwise_cons.mp fits.orderly.increasing).1
  | _ => exact .stay _ _

theorem mem_of_skipAssigned {trail : Trail} {pending later : List Proposition} {p : Proposition}
    (next : skipAssigned trail pending = p :: later) :
    trail.at? p = none ∧ ∀ q ∈ p :: later, q ∈ pending := by
  have head := List.head?_dropWhile_not (fun p => (trail.at? p).isSome) pending
  rw [← skipAssigned, next] at head
  refine ⟨by simpa using head, fun q mem => ?_⟩
  rw [← next] at mem
  exact (List.dropWhile_suffix _).mem mem

/-- What a step is about was in range before, or is in a constraint. -/
theorem Step.staged (index : occurrences.Indexes count constraints)
    (step : Step occurrences order here there)
    (fits : Fits order count here) : ∀ p ∈ there.stage.propositions, p.index < count := by
  have staged := fits.staged
  cases step with
  | next =>
    simp only [Stage.propositions, List.mem_append, List.mem_flatMap] at staged ⊢
    rintro p (⟨constraint, mem, about⟩ | mem)
    · exact index.lt_count (index.mem_of_iff.mp mem).1 about
    · exact staged p (.inr (List.mem_cons_of_mem _ mem))
  | @pass constraint todo queue _ _ trail left quiet =>
    intro p mem
    rw [Stage.propositions, List.flatMap_cons, List.append_assoc] at staged
    exact staged p (List.mem_append_right _ mem)
  | @forces constraint todo queue _ _ trail left literals forced =>
    intro p mem
    rw [Stage.propositions, List.flatMap_cons, List.append_assoc] at staged
    rcases List.mem_append.mp mem with mem | mem
    · obtain ⟨l, listed, rfl⟩ := List.mem_map.mp mem
      have about := ((Constraint.consequence_force forced).2 l listed).1
      exact staged _ (List.mem_append_left _ about)
    · exact staged p (List.mem_append_right _ mem)
  | forced => exact staged
  | known => exact fun p mem => staged p (List.mem_cons_of_mem _ mem)
  | assign =>
    intro p mem
    refine staged p ?_
    simp only [Stage.propositions, List.map_cons, List.mem_append, List.mem_cons] at mem ⊢
    tauto
  | decide | pop =>
    refine List.forall_mem_singleton.mpr ?_
    rw [← fits.size]
    exact fits.orderly.index_lt List.mem_cons_self
  | _ => exact List.forall_mem_nil _

/-- Decisions stay on the trail but while the latest one is still to be made. -/
theorem Step.orderly (inside : ∀ p ∈ order, p.index < count)
    (step : Step occurrences order here there) (fits : Fits order count here) :
    there.IsOrderly := by
  have orderly := fits.orderly
  cases step with
  | exhausted => exact .inl orderly
  | assign unknown => exact Stacked.assign orderly (fits.open_of_force unknown)
  | @choose _ _ trail _ p later value next =>
    obtain ⟨unknown, mem⟩ := mem_of_skipAssigned next
    refine .intro orderly ⟨Trail.open_iff.mpr ⟨?_, unknown⟩, rfl⟩
    rw [fits.size]
    exact inside _ (fits.pending _ (mem _ List.mem_cons_self))
  | late => exact .inr orderly
  | decide => exact Announced.decide orderly
  | pop => exact orderly
  | drop => exact (Stacked.undo orderly).1
  | flip =>
    obtain ⟨stacked, due⟩ := Stacked.undo orderly
    exact .intro stacked due
  | _ => exact orderly

/-- Each step leads from a moment that is fit to another one. -/
theorem Step.fits (index : occurrences.Indexes count constraints)
    (inside : ∀ p ∈ order, p.index < count) (step : Step occurrences order here there)
    (fits : Fits order count here) : Fits order count there where
  orderly := step.orderly inside fits
  size := (step.shift fits).size_eq.trans fits.size
  staged := step.staged index fits
  pending := by
    have pending := fits.pending
    cases step with
    | choose value next =>
      exact fun q mem => pending q ((mem_of_skipAssigned next).2 q (List.mem_cons_of_mem _ mem))
    | flip => exact fun q mem => mem
    | _ => exact pending

theorem Fits.reaches (index : occurrences.Indexes count constraints)
    (inside : ∀ p ∈ order, p.index < count) (fits : Fits order count here)
    (reaches : Reaches occurrences order here there) : Fits order count there := by
  induction reaches with
  | refl => exact fits
  | tail _ step ih => exact step.fits index inside ih

/-- Nothing that a search is about is out of range. -/
theorem Fits.index_lt (fits : Fits order count here) (inside : ∀ p ∈ order, p.index < count) :
    ∀ p ∈ here.propositions, p.index < count := by
  intro p mem
  simp only [propositions, List.mem_append] at mem
  obtain ((mem | mem) | mem) | mem := mem
  · exact fits.staged p mem
  · obtain ⟨decision, held, rfl⟩ := List.mem_map.mp mem
    exact fits.size ▸ fits.orderly.index_lt held
  · exact inside p (fits.pending p mem)
  · exact fits.size ▸ Trail.index_lt_of_isSome ((fits.orderly.layered.record.mem_iff p).mp mem)

/-! ## Since a decision was put on the stack -/

/-- Whether the latest decision of an earlier moment was still to be made then, and has been on the
stack since, with all that it was put upon. -/
def PushedAt (occurrences : Occurrences) (order : List Proposition) (before here : Moment) : Prop :=
  before.stage = .decide ∧
    Relation.ReflTransGen (fun one next => Step occurrences order one next ∧
      before.stack <:+ next.stack) before here

/-- A step puts nothing on the stack but a decision that is to be made next. -/
theorem Step.suffix (step : Step occurrences order here there) (held : stack <:+ there.stack) :
    stack <:+ here.stack ∨ there.stage = .decide ∧ stack = there.stack := by
  cases step with
  | choose | flip =>
    rcases List.suffix_cons_iff.mp held with rfl | held
    · exact .inr ⟨rfl, rfl⟩
    · exact .inl held
  | pop => exact .inl (held.trans (List.suffix_cons _ _))
  | _ => exact .inl held

/-- Every decision on the stack was put there at some time. -/
theorem exists_pushedAt {first : Moment} (bare : first.stack = [])
    (reaches : Reaches occurrences order first here) (held : decision :: below <:+ here.stack) :
    ∃ before, Reaches occurrences order first before ∧ before.stack = decision :: below ∧
      PushedAt occurrences order before here := by
  induction reaches with
  | refl => simp [bare] at held
  | @tail here there reaches step ih =>
    rcases step.suffix held with held' | ⟨decides, same⟩
    · obtain ⟨before, earlier, same, decides, run⟩ := ih held'
      exact ⟨before, earlier, same, decides, run.tail ⟨step, same ▸ held⟩⟩
    · exact ⟨there, reaches.tail step, same.symm, decides, .refl⟩

/-- To go back to the height of a decision is to go back to the trail on which it was put on the
stack. -/
theorem PushedAt.undo_eq {before : Moment} (pushed : PushedAt occurrences order before here)
    (index : occurrences.Indexes count constraints) (inside : ∀ p ∈ order, p.index < count)
    (fits : Fits order count before) (same : before.stack = decision :: below) :
    here.trail.undo decision.height = before.trail := by
  obtain ⟨decides, run⟩ := pushed
  rw [same] at run
  suffices Fits order count here ∧ decision :: below <:+ here.stack ∧
      here.trail.undo decision.height = before.trail from this.2.2
  induction run with
  | refl =>
    obtain ⟨latest, awaits, -, -, height⟩ := fits.orderly.exists_awaits decides
    obtain rfl : decision = latest := by simpa [same] using awaits
    exact ⟨fits, same ▸ List.suffix_rfl, Trail.undo_of_height_le height.ge⟩
  | tail _ last ih =>
    obtain ⟨step, kept⟩ := last
    obtain ⟨fits', held, undone⟩ := ih
    refine ⟨step.fits index inside fits', kept, ?_⟩
    rw [(step.shift fits').undo_eq fits'.orderly.layered (held.mem List.mem_cons_self), undone]

end Moment

/-! ## Searches -/

namespace Problem

variable {problem : Problem} {budget : ℕ} {order : List Proposition} {here : Moment} {σ : Type}

theorem fits_firstMoment
    (own : ∀ constraint ∈ problem.constraints.toList, ∀ p ∈ constraint.propositions, problem.Has p)
    (budget : ℕ) (order : List Proposition) :
    (problem.firstMoment budget order).Fits order problem.size where
  orderly := ⟨Trail.isRecord_blank _, .nil, List.forall_mem_nil _⟩
  size := size_blank _
  staged p mem := by
    simp only [firstMoment, Stage.propositions, List.append_nil, List.mem_flatMap] at mem
    obtain ⟨constraint, mem, about⟩ := mem
    exact own constraint mem p about
  pending p mem := mem

/-- The tables of a search have places for just the propositions of a problem that was built. -/
theorem Built.index_lt (built : problem.Built) {p : Proposition} (own : problem.Has p) :
    p.index < problem.occurrences.size ∧ p.index < problem.priors.size := by
  obtain ⟨sheet, consists⟩ := built.exists_consists
  rw [occurrences, Occurrences.size_ofConstraints, consists.sized]
  exact ⟨own, own⟩

/-- Wherever a search stands, in whatever order it decides, whatever values it tries first and
whatever its budget: the trail lists just the propositions that have a value, and none twice; the
later a decision, the higher; each decision is on the trail, at its height and with its value, but
for the latest one where that is still to be made, or where the budget has run out as it was, and
then it goes on top of the trail; each was put on the stack at some time and has been there since
then, and to go back to its height is to go back to the trail of that time. In a problem that was
built, all propositions that the search is about have their places in its tables, and so have those
that its variables are about. The table of occurrences can only be made where constraints are about
propositions of the problem. -/
theorem trail_of_search (problem : Problem) (budget : ℕ)
    (own : ∀ constraint ∈ problem.constraints.toList, ∀ p ∈ constraint.propositions,
      problem.Has p) :
    (∀ (σ : Type) (chooser : Chooser σ) (source : σ),
      (chooser.order problem.propositions source).1.Perm problem.propositions ∧
      Moment.EndsIn problem.occurrences (chooser.order problem.propositions source).1
        (problem.firstMoment budget (chooser.order problem.propositions source).1)
        (problem.search chooser budget source).1) ∧
    ∀ order : List Proposition, order.Perm problem.propositions → ∀ here : Moment,
      Moment.Reaches problem.occurrences order (problem.firstMoment budget order) here →
      here.trail.IsRecord ∧
      here.stack.Pairwise (fun later earlier => earlier.height < later.height) ∧
      (∀ decision ∈ here.stack, decision.IsPlaced here.trail ∨ here.Awaits decision) ∧
      (here.stage = .decide → ∃ decision, here.Awaits decision) ∧
      (∀ decision below, decision :: below <:+ here.stack →
        ∃ before, Moment.Reaches problem.occurrences order (problem.firstMoment budget order)
            before ∧
          before.stack = decision :: below ∧
          Moment.PushedAt problem.occurrences order before here) ∧
      (∀ decision below before,
        Moment.Reaches problem.occurrences order (problem.firstMoment budget order) before →
        before.stack = decision :: below →
        Moment.PushedAt problem.occurrences order before here →
        here.trail.undo decision.height = before.trail) ∧
      (problem.Built →
        (∀ p ∈ here.propositions, p.index < here.trail.values.size ∧
          p.index < problem.occurrences.size ∧ p.index < problem.priors.size) ∧
        ∀ v ∈ problem.unknowns.toList, ∀ p ∈ v.propositions,
          p.index < here.trail.values.size) := by
  refine ⟨fun σ chooser source => ⟨chooser.order_perm _ _, problem.ends_search _ _ _⟩, ?_⟩
  intro order perm here reaches
  have index : problem.occurrences.Indexes problem.size problem.constraints.toList :=
    Occurrences.indexes_ofConstraints own
  have inside : ∀ p ∈ order, p.index < problem.size :=
    fun p mem => mem_propositions.mp (perm.mem_iff.mp mem)
  have first := fits_firstMoment own budget order
  have fits := first.reaches index inside reaches
  refine ⟨fits.orderly.layered.record, fits.orderly.layered.increasing,
    fun decision mem => fits.orderly.placed_or_awaits mem, fits.orderly.exists_awaits, ?_, ?_, ?_⟩
  · exact fun decision below held => Moment.exists_pushedAt rfl reaches held
  · exact fun decision below before earlier same pushed =>
      pushed.undo_eq index inside (first.reaches index inside earlier) same
  · intro built
    rw [fits.size]
    refine ⟨fun p mem => ?_, built.scoped.unknowns⟩
    have lt := fits.index_lt inside p mem
    exact ⟨lt, built.index_lt lt⟩

/-- If sun is decided and rain follows, to go back is to forget both. -/
theorem trail_of_search_weather :
    (∀ constraint ∈ weather.constraints.toList, ∀ p ∈ constraint.propositions, weather.Has p) ∧
    [sun, rain].Perm weather.propositions ∧ weather.Built ∧
    ∃ here : Moment, here.stack = [⟨sun, true, false, 0⟩] ∧
      here.trail.order = #[sun, rain] ∧
      Moment.Reaches weather.occurrences [sun, rain] (weather.firstMoment 20 [sun, rain]) here ∧
      here.trail.IsRecord ∧ Decision.IsPlaced ⟨sun, true, false, 0⟩ here.trail ∧
      (∃ before, before.stack = [⟨sun, true, false, 0⟩] ∧ before.trail = here.trail.undo 0 ∧
        Moment.PushedAt weather.occurrences [sun, rain] before here) ∧
      ∀ p ∈ here.propositions, p.index < weather.occurrences.size := by
  have own := built_weather.scoped.constraints
  have perm : [sun, rain].Perm weather.propositions := .of_eq propositions_weather.symm
  have settled := reaches_propagate weather.occurrences [sun, rain] [] [sun, rain] 20
    weather.constraints.toList [] (.blank weather.size)
  rw [← settle, settle_weather] at settled
  have chosen : skipAssigned (.blank 2) [sun, rain] = [sun, rain] := rfl
  have reaches := settled.trans
    (.head (.choose true chosen) (reaches_of_pursue pursue_weather (by simp)))
  obtain ⟨record, -, placed, -, pushed, undone, ranges⟩ :=
    (trail_of_search weather 20 own).2 [sun, rain] perm _ reaches
  obtain ⟨before, earlier, same, since⟩ := pushed _ _ List.suffix_rfl
  refine ⟨own, perm, built_weather, _, rfl, rfl, reaches, record, ?_,
    ⟨before, same, (undone _ _ _ earlier same since).symm, since⟩,
    fun p mem => ((ranges built_weather).1 p mem).2.1⟩
  -- the search retreats here, so that no decision is awaited
  refine (placed _ List.mem_cons_self).resolve_right fun awaits => ?_
  rcases awaits.2.1 with stage | stage <;> cases stage

/-- With sun decided, and no step left to decide rain, the search for weather ends with a decision
on its stack that is not on its trail. -/
theorem not_isPlaced_sunAndRain :
    sunAndRain.Built ∧ [sun, rain].Perm sunAndRain.propositions ∧
    ∃ here : Moment, here.stage = .ended .timeout ∧
      Moment.Reaches sunAndRain.occurrences [sun, rain] (sunAndRain.firstMoment 1 [sun, rain])
        here ∧
      here.stack = [⟨rain, true, false, 1⟩, ⟨sun, true, false, 0⟩] ∧
      here.trail = ⟨#[some true, none], #[sun]⟩ ∧
      ¬ Decision.IsPlaced ⟨rain, true, false, 1⟩ here.trail := by
  have size : sunAndRain.size = 2 := congrArg Array.size names_sunAndRain
  have propositions : sunAndRain.propositions = [sun, rain] := by
    rw [propositions, size]
    rfl
  have occurrences : sunAndRain.occurrences = .ofConstraints 2 sunAndRain.constraints.toList := by
    rw [occurrences, size]
  have settled := reaches_propagate sunAndRain.occurrences [sun, rain] [] [sun, rain] 1
    sunAndRain.constraints.toList [] (.blank sunAndRain.size)
  have quiet : sunAndRain.settle 1 = ⟨.quiet, .blank 2, 1⟩ := by
    rw [settle, occurrences, size]
    cbv
  rw [← settle, quiet] at settled
  have sunny : Decision.pursue sunAndRain.occurrences ⟨sun, true, false, 0⟩ 1 (.blank 2) =
      ⟨.quiet, ⟨#[some true, none], #[sun]⟩, 0⟩ := by
    rw [occurrences]
    cbv
  have first : skipAssigned (.blank 2) [sun, rain] = [sun, rain] := rfl
  have second : skipAssigned ⟨#[some true, none], #[sun]⟩ [rain] = [rain] := rfl
  have decided := settled.trans
    (.head (.choose true first) (reaches_of_pursue sunny (by simp)))
  refine ⟨(Built.empty.proposition "sun").proposition "rain", .of_eq propositions.symm, _, rfl,
    (decided.tail (.choose true second)).tail .late, rfl, rfl, ?_⟩
  exact fun placed => absurd placed.2 (by decide)

end Problem

end Worldsmith
