import Mathlib.Data.List.TakeWhile
import Mathlib.Tactic.Common
import Worldsmith.Proofs.Search.Propagation
import Worldsmith.Search.Descent

/-!
# Decisions rest on quiet trails

Each decision on the stack was made on a trail from which nothing more followed, and going back to
its height gives that trail.

## Main definitions

* `Rests` — what a stack of decisions says about the trail above it.
* `Reached` — what holds whenever the next proposition is about to be decided.

## Main statements

* `rests_of_retreat` — where a search goes on after a conflict, decisions again rest on quiet
  trails.
* `Reached.advance`, `Reached.resume` — a decision and a retreat both keep what holds.
-/

namespace Worldsmith

variable {σ : Type} {constraints : List Constraint} {occurrences : Occurrences}
  {order pending pending' : List Proposition} {decision : Decision} {stack stack' : List Decision}
  {trail trail' before : Trail} {left left' : Nat} {verdict : Verdict} {v : Valuation}
  {p : Proposition}

/-- Every decision of a stack was made about an open proposition on a quiet trail as high as the
decision says, and the trail above has grown from there. -/
inductive Rests (constraints : List Constraint) : List Decision → Trail → Prop where
  | bottom (trail : Trail) : Rests constraints [] trail
  | decide {decision : Decision} {stack : List Decision} {before trail : Trail}
      (below : Rests constraints stack before) (height : decision.height = before.height)
      (fresh : before.Open decision.proposition) (quiet : before.QuietOn constraints)
      (grows : (before.assign decision.literal).Grows trail) :
      Rests constraints (decision :: stack) trail

/-- Going back to the height of the latest decision gives the trail on which it was made. -/
theorem Rests.undo (rests : Rests constraints (decision :: stack) trail) :
    ∃ before, trail.undo decision.height = before ∧ Rests constraints stack before ∧
      decision.height = before.height ∧ before.Open decision.proposition ∧
      before.QuietOn constraints ∧ (before.assign decision.literal).Grows trail := by
  cases rests with
  | @decide _ _ before _ below height fresh quiet grows =>
    have here : trail.undo decision.height = before := by
      rw [height]
      exact Trail.undo_of_grows_assign (l := decision.literal) fresh grows
    exact ⟨before, here, below, height, fresh, quiet, grows⟩

/-! ## Pursuing a decision -/

namespace Decision

theorem grows_pursue (decision : Decision)
    (index : occurrences.Indexes trail.values.size constraints)
    (pursued : decision.pursue occurrences left trail = ⟨verdict, trail', left'⟩)
    (ended : verdict ≠ .exhausted) : (trail.assign decision.literal).Grows trail' := by
  cases left with
  | zero => simp_all [pursue]
  | succ left =>
    rw [pursue] at pursued
    rw [← Trail.size_assign trail decision.literal] at index
    have grows := grows_propagate index left [decision.proposition] (List.forall_mem_nil _)
    rwa [pursued] at grows

/-- Going back to the height of a decision after it has been pursued gives the trail before it. -/
theorem undo_pursue (decision : Decision)
    (index : occurrences.Indexes trail.values.size constraints)
    (fresh : trail.Open decision.proposition) (height : decision.height = trail.height)
    (pursued : decision.pursue occurrences left trail = ⟨verdict, trail', left'⟩)
    (ended : verdict ≠ .exhausted) : trail'.undo decision.height = trail := by
  have grows := decision.grows_pursue index pursued ended
  rw [height]
  exact Trail.undo_of_grows_assign (l := decision.literal) fresh grows

theorem covered_assign (decision : Decision) (quiet : trail.QuietOn constraints)
    (fresh : trail.Open decision.proposition) :
    Covered constraints [] [decision.proposition] (trail.assign decision.literal) := by
  intro c hc
  by_cases mention : decision.proposition ∈ c.propositions
  · exact .inr (.inr ⟨_, List.mem_singleton.mpr rfl, mention⟩)
  · refine .inl ?_
    have unchanged : c.consequence (trail.assign decision.literal).value =
        c.consequence trail.value := by
      refine Constraint.consequence_congr fun p hp => ?_
      refine Trail.at?_assign_of_ne fresh ?_
      rintro rfl
      exact mention hp
    rw [unchanged]
    exact quiet c hc

theorem quietOn_pursue (decision : Decision)
    (index : occurrences.Indexes trail.values.size constraints)
    (quiet : trail.QuietOn constraints) (fresh : trail.Open decision.proposition)
    (pursued : decision.pursue occurrences left trail = ⟨.quiet, trail', left'⟩) :
    trail'.QuietOn constraints := by
  cases left with
  | zero => simp [pursue] at pursued
  | succ left =>
    rw [pursue] at pursued
    rw [← Trail.size_assign trail decision.literal] at index
    have rest := quietOn_propagate index (List.forall_mem_nil _)
      (decision.covered_assign quiet fresh) (congrArg Progress.verdict pursued)
    rwa [pursued] at rest

theorem completes_pursue (decision : Decision)
    (index : occurrences.Indexes trail.values.size constraints)
    (fresh : trail.Open decision.proposition)
    (met : ∀ c ∈ constraints, c.holds v.satisfies = true) (completes : v.Completes trail.at?)
    (agrees : v decision.proposition = decision.value)
    (pursued : decision.pursue occurrences left trail = ⟨verdict, trail', left'⟩)
    (ended : verdict ≠ .exhausted) : verdict ≠ .conflict ∧ v.Completes trail'.at? := by
  cases left with
  | zero => simp_all [pursue]
  | succ left =>
    rw [pursue] at pursued
    rw [← Trail.size_assign trail decision.literal] at index
    have satisfied : v.satisfies decision.literal = true := Valuation.satisfies_iff.mpr agrees
    have sound := completes_propagate index left [decision.proposition] (List.forall_mem_nil _)
      met (completes.assign fresh satisfied)
    rwa [pursued] at sound

end Decision

/-! ## Retreating -/

theorem size_of_grows_assign (grows : (before.assign decision.literal).Grows trail) :
    trail.values.size = before.values.size :=
  grows.size_eq.trans (before.size_assign decision.literal)

/-- Where a search goes on after a conflict, decisions rest on quiet trails, and the trail itself is
quiet. -/
theorem rests_of_retreat (index : occurrences.Indexes trail.values.size constraints)
    (rests : Rests constraints stack trail)
    (resumed : retreat occurrences left stack trail = .resumed left' stack' trail') :
    Rests constraints stack' trail' ∧ trail'.QuietOn constraints ∧
      trail'.values.size = trail.values.size := by
  fun_induction retreat occurrences left stack trail with
  | case1 => cases resumed
  | case2 left decision stack trail back _ ih =>
    obtain ⟨before, here, below, -, -, -, grows⟩ := rests.undo
    have size := size_of_grows_assign grows
    simp only [back, here] at ih resumed
    rw [size] at index ⊢
    exact ih index below resumed
  | case3 left decision stack trail back _ after left'' pursued =>
    cases resumed
    obtain ⟨before, here, below, height, fresh, quiet, grows⟩ := rests.undo
    have size := size_of_grows_assign grows
    simp only [back, here] at pursued
    rw [size] at index ⊢
    have grows' := decision.flip.grows_pursue index pursued (by simp)
    have quiet' := decision.flip.quietOn_pursue index quiet fresh pursued
    exact ⟨.decide below height fresh quiet grows', quiet', size_of_grows_assign grows'⟩
  | case4 left decision stack trail back _ after left'' pursued ih =>
    obtain ⟨before, here, below, height, fresh, quiet, grows⟩ := rests.undo
    have size := size_of_grows_assign grows
    simp only [back, here] at pursued
    rw [size] at index ⊢
    have grows' := decision.flip.grows_pursue index pursued (by simp)
    have here' : after.undo decision.height = before :=
      decision.flip.undo_pursue index fresh height pursued (by simp)
    rw [here'] at ih resumed
    exact ih index below resumed
  | case5 => cases resumed

/-! ## Descending -/

/-- How a search goes on after a retreat. -/
def Retreat.proceed (occurrences : Occurrences) (prior : Proposition → Float)
    (draw : Float → σ → Bool × σ) (order : List Proposition) (source : σ) :
    Retreat → Outcome × σ
  | .exhausted => (.timeout, source)
  | .refuted => (.contradiction, source)
  | .resumed left stack trail =>
    descend occurrences prior draw order left stack order trail source

/-- A descent decides the next open proposition, and goes on or retreats. -/
theorem descend_of_next (occurrences : Occurrences) {prior : Proposition → Float}
    {draw : Float → σ → Bool × σ} (order : List Proposition) (left : Nat) (stack : List Decision)
    {p : Proposition} {rest : List Proposition} {value : Bool} {source source' : σ}
    (next : skipAssigned trail pending = p :: rest)
    (drawn : draw (prior p) source = (value, source')) :
    descend occurrences prior draw order left stack pending trail source =
      match Decision.pursue occurrences ⟨p, value, false, trail.height⟩ left trail with
      | ⟨.quiet, trail', left'⟩ =>
        descend occurrences prior draw order left' (⟨p, value, false, trail.height⟩ :: stack) rest
          trail' source'
      | ⟨.conflict, trail', left'⟩ =>
        (retreat occurrences left' (⟨p, value, false, trail.height⟩ :: stack) trail').proceed
          occurrences prior draw order source'
      | ⟨.exhausted, _, _⟩ => (.timeout, source') := by
  rw [descend]
  split
  case h_1 none => rw [next] at none; cases none
  case h_2 q others some =>
    rw [next] at some
    obtain ⟨rfl, rfl⟩ := List.cons.inj some
    rw [drawn]
    dsimp only
    split
    case h_1 pursued => rw [pursued]
    case h_2 pursued =>
      rw [pursued]
      dsimp only
      split
      case h_1 retreated => rw [retreated]; rfl
      case h_2 retreated => rw [retreated]; rfl
      case h_3 retreated => rw [retreated]; rfl
    case h_3 pursued => rw [pursued]

/-- What holds whenever a search is about to decide the next proposition: decisions rest on quiet
trails, the trail is quiet, and what is no longer pending has a value. -/
structure Reached (constraints : List Constraint) (order : List Proposition)
    (stack : List Decision) (pending : List Proposition) (trail : Trail) : Prop where
  rests : Rests constraints stack trail
  quiet : trail.QuietOn constraints
  inside : ∀ p ∈ order, p.index < trail.values.size
  ordered : ∀ p ∈ pending, p ∈ order
  decided : ∀ p ∈ order, p ∈ pending ∨ (trail.at? p).isSome = true

theorem mem_skipAssigned (trail : Trail) (hp : p ∈ pending) :
    p ∈ skipAssigned trail pending ∨ (trail.at? p).isSome = true := by
  rw [← List.takeWhile_append_dropWhile (p := fun p => (trail.at? p).isSome) (l := pending)] at hp
  rcases List.mem_append.mp hp with hp | hp
  · have known := List.mem_takeWhile_imp (p := fun p => (trail.at? p).isSome) hp
    exact .inr known
  · exact .inl hp

namespace Reached

/-- The next proposition that is not skipped is open. -/
theorem fresh (reached : Reached constraints order stack pending trail)
    (next : skipAssigned trail pending = p :: pending') : trail.Open p := by
  have mem : p ∈ skipAssigned trail pending := next ▸ List.mem_cons_self
  have unknown : ¬ (trail.at? p).isSome = true := by
    have head := List.head?_dropWhile_not (fun p => (trail.at? p).isSome) pending
    rw [← skipAssigned, next] at head
    simpa using head
  refine Trail.open_iff.mpr ⟨?_, by simpa using unknown⟩
  exact reached.inside p (reached.ordered p ((List.dropWhile_suffix _).mem mem))

/-- When nothing is pending, everything has a value. -/
theorem finished (reached : Reached constraints order stack pending trail)
    (next : skipAssigned trail pending = []) (hp : p ∈ order) :
    (trail.at? p).isSome = true := by
  rcases reached.decided p hp with mem | known
  · rcases mem_skipAssigned trail mem with mem | known
    · simp [next] at mem
    · exact known
  · exact known

/-- A decision about the next proposition rests on the trail. -/
theorem decide (reached : Reached constraints order stack pending trail) {value : Bool}
    (flipped : Bool) (fresh : trail.Open p)
    (grows : (trail.assign ⟨p, value⟩).Grows trail') :
    Rests constraints (⟨p, value, flipped, trail.height⟩ :: stack) trail' :=
  .decide reached.rests rfl fresh reached.quiet grows

/-- A decision that leads to no conflict keeps what holds. -/
theorem advance (reached : Reached constraints order stack pending trail)
    (index : occurrences.Indexes trail.values.size constraints)
    (next : skipAssigned trail pending = p :: pending') {value : Bool}
    (pursued : Decision.pursue occurrences ⟨p, value, false, trail.height⟩ left trail =
      ⟨.quiet, trail', left'⟩) :
    Reached constraints order (⟨p, value, false, trail.height⟩ :: stack) pending' trail' := by
  have fresh := reached.fresh next
  have grows := Decision.grows_pursue _ index pursued (by simp)
  have longer := (Trail.grows_assign fresh).trans grows
  refine ⟨reached.decide false fresh grows,
    Decision.quietOn_pursue _ index reached.quiet fresh pursued, ?_, ?_, ?_⟩
  · rw [longer.size_eq]
    exact reached.inside
  · intro q hq
    have mem : q ∈ skipAssigned trail pending := next ▸ List.mem_cons_of_mem p hq
    exact reached.ordered q ((List.dropWhile_suffix _).mem mem)
  · intro q hq
    rcases reached.decided q hq with mem | known
    · rcases mem_skipAssigned trail mem with mem | known
      · rw [next] at mem
        rcases List.mem_cons.mp mem with rfl | mem
        · have decided : (trail.assign ⟨q, value⟩).at? q = some value := by
            rw [Trail.at?_assign fresh, if_pos rfl]
          exact .inr (by rw [grows.at?_eq_some decided]; rfl)
        · exact .inl mem
      · exact .inr (longer.isSome_at? known)
    · exact .inr (longer.isSome_at? known)

/-- A retreat from a conflict keeps what holds. -/
theorem resume (reached : Reached constraints order stack pending trail)
    (index : occurrences.Indexes trail.values.size constraints)
    (next : skipAssigned trail pending = p :: pending') {value : Bool}
    (pursued : Decision.pursue occurrences ⟨p, value, false, trail.height⟩ left trail =
      ⟨.conflict, before, left'⟩)
    {last : Nat} (resumed : retreat occurrences left'
      (⟨p, value, false, trail.height⟩ :: stack) before = .resumed last stack' trail') :
    Reached constraints order stack' order trail' ∧ trail'.values.size = trail.values.size := by
  have fresh := reached.fresh next
  have grows := Decision.grows_pursue _ index pursued (by simp)
  have size := ((Trail.grows_assign fresh).trans grows).size_eq
  rw [← size] at index
  obtain ⟨rests, quiet, size'⟩ := rests_of_retreat index (reached.decide false fresh grows) resumed
  refine ⟨⟨rests, quiet, ?_, fun q hq => hq, fun q hq => .inl hq⟩, size'.trans size⟩
  rw [size', size]
  exact reached.inside

end Reached

end Worldsmith
