import Worldsmith.Search.Propagation

/-!
# Descent

Propositions are decided one by one in a given order, each first with a drawn truth value. After a
conflict the latest decision that has been tried one way only is tried the other way. When there
is none left, nothing satisfies the constraints.
-/

namespace Worldsmith

/-- A truth value that was tried rather than forced. -/
structure Decision where
  proposition : Proposition
  value : Bool
  /-- Whether the other value has been tried already. -/
  flipped : Bool
  /-- The height of the trail before the decision. -/
  height : Nat
  deriving DecidableEq, Repr

def Decision.literal (decision : Decision) : Literal :=
  ⟨decision.proposition, decision.value⟩

/-- The decision for the other value. -/
def Decision.flip (decision : Decision) : Decision :=
  { decision with value := !decision.value, flipped := true }

/-- Make a decision and propagate it. The decision itself takes a step. -/
def Decision.pursue (occurrences : Occurrences) (decision : Decision) (left : Nat)
    (trail : Trail) : Progress :=
  match left with
  | 0 => ⟨.exhausted, trail, 0⟩
  | left + 1 =>
    propagate occurrences left [] [decision.proposition] (trail.assign decision.literal)

/-- A decision takes a step, unless there is none left. -/
theorem Decision.left_lt_or_of_pursue {occurrences : Occurrences} {decision : Decision}
    {left left' : Nat} {trail trail' : Trail} {verdict : Verdict}
    (h : decision.pursue occurrences left trail = ⟨verdict, trail', left'⟩) :
    left' < left ∨ verdict = .exhausted ∧ left' = left := by
  cases left with
  | zero =>
    cases h
    exact .inr ⟨rfl, rfl⟩
  | succ left =>
    have := left_propagate_le occurrences left [] [decision.proposition]
      (trail.assign decision.literal)
    rw [pursue] at h
    rw [h] at this
    exact .inl (Nat.lt_succ_of_le this)

/-- Pursuing a decision never gains steps. -/
theorem Decision.left_le_of_pursue {occurrences : Occurrences} {decision : Decision}
    {left left' : Nat} {trail trail' : Trail} {verdict : Verdict}
    (h : decision.pursue occurrences left trail = ⟨verdict, trail', left'⟩) : left' ≤ left :=
  (left_lt_or_of_pursue h).elim Nat.le_of_lt fun stays => Nat.le_of_eq stays.2

/-- A decision that has not run out of steps has taken one. -/
theorem Decision.left_lt_of_pursue {occurrences : Occurrences} {decision : Decision}
    {left left' : Nat} {trail trail' : Trail} {verdict : Verdict}
    (h : decision.pursue occurrences left trail = ⟨verdict, trail', left'⟩)
    (hv : verdict ≠ .exhausted) : left' < left :=
  (left_lt_or_of_pursue h).resolve_right fun stays => hv stays.1

/-- Where a retreat from a conflict ended. -/
inductive Retreat where
  | exhausted
  /-- All decisions have been tried both ways. -/
  | refuted
  | resumed (left : Nat) (stack : List Decision) (trail : Trail)

/-- Drop decisions that have been tried both ways and try the next one the other way, until that
meets no conflict. The latest decision is on top of the stack. -/
def retreat (occurrences : Occurrences) : (left : Nat) → List Decision → Trail → Retreat
  | _, [], _ => .refuted
  | left, decision :: stack, trail =>
    let trail := trail.undo decision.height
    if decision.flipped then retreat occurrences left stack trail
    else
      match decision.flip.pursue occurrences left trail with
      | ⟨.quiet, trail, left⟩ => .resumed left (decision.flip :: stack) trail
      | ⟨.conflict, trail, left⟩ =>
        retreat occurrences left stack (trail.undo decision.height)
      | ⟨.exhausted, _, _⟩ => .exhausted

theorem left_retreat_le {occurrences : Occurrences} {left : Nat} {stack : List Decision}
    {trail : Trail} {left' : Nat} {stack' : List Decision} {trail' : Trail}
    (h : retreat occurrences left stack trail = .resumed left' stack' trail') : left' ≤ left := by
  fun_induction retreat occurrences left stack trail with
  | case1 => simp at h
  | case2 _ _ _ _ _ _ ih => exact ih h
  | case3 _ _ _ _ _ _ _ _ pursued =>
    simp only [Retreat.resumed.injEq] at h
    exact h.1 ▸ Decision.left_le_of_pursue pursued
  | case4 _ _ _ _ _ _ _ _ pursued ih =>
    exact Nat.le_trans (ih h) (Decision.left_le_of_pursue pursued)
  | case5 => simp at h

/-- How a search ended. -/
inductive Outcome where
  /-- Every proposition that was to be decided has a value. -/
  | found (trail : Trail) (left : Nat)
  | contradiction
  | timeout

/-- Skip what has a value already. -/
def skipAssigned (trail : Trail) (pending : List Proposition) : List Proposition :=
  pending.dropWhile fun p => (trail.at? p).isSome

/-- Decide the propositions in `pending`, drawing from a source the truth value to try first.
After a retreat the whole order is gone through again. -/
def descend {σ : Type} (occurrences : Occurrences) (prior : Proposition → Float)
    (draw : Float → σ → Bool × σ) (order : List Proposition) (left : Nat) (stack : List Decision)
    (pending : List Proposition) (trail : Trail) (source : σ) : Outcome × σ :=
  match skipAssigned trail pending with
  | [] => (.found trail left, source)
  | p :: pending =>
    let (value, source) := draw (prior p) source
    let decision : Decision := ⟨p, value, false, trail.height⟩
    match h : decision.pursue occurrences left trail with
    | ⟨.quiet, trail, left'⟩ =>
      have := Decision.left_lt_of_pursue h (by simp)
      descend occurrences prior draw order left' (decision :: stack) pending trail source
    | ⟨.conflict, trail, left'⟩ =>
      match h' : retreat occurrences left' (decision :: stack) trail with
      | .resumed left'' stack trail =>
        have := Nat.lt_of_le_of_lt (left_retreat_le h') (Decision.left_lt_of_pursue h (by simp))
        descend occurrences prior draw order left'' stack order trail source
      | .refuted => (.contradiction, source)
      | .exhausted => (.timeout, source)
    | ⟨.exhausted, _, _⟩ => (.timeout, source)
termination_by left

end Worldsmith
