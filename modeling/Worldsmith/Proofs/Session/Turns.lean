import Mathlib.Tactic.Common
import Worldsmith.Proofs.Trials.Imagining
import Worldsmith.Session.Basic

/-!
# Taking turns

What comes of a turn is told by what comes of its parts, one after another.

## Main statements

* `Turn.take_bind` — a turn made of two goes on with what the first one gives, unless that fails.
* `Turn.take_tryCatch` — a turn that fails and is caught goes on from where it failed.
* `Turn.imagine_ne_contradiction` — to imagine what can be is never refused as a contradiction.
-/

namespace Worldsmith

namespace Turn

variable {α β : Type} {session : Session} {request : Request}

@[simp] theorem take_pure (a : α) : (pure a : Turn α).take session = (.ok a, session) := rfl

@[simp] theorem take_throw (error : Error) :
    (throw error : Turn α).take session = (.error error, session) := rfl

theorem take_bind (turn : Turn α) (next : α → Turn β) : (turn >>= next).take session =
    match turn.take session with
    | (.ok a, later) => (next a).take later
    | (.error error, later) => (.error error, later) := by
  change (ExceptT.bindCont next (turn.take session).1) (turn.take session).2 = _
  rcases turn.take session with ⟨_ | _, _⟩ <;> rfl

@[simp] theorem take_get : (get : Turn Session).take session = (.ok session, session) := rfl

@[simp] theorem take_set (later : Session) :
    (set later : Turn PUnit).take session = (.ok (), later) := rfl

@[simp] theorem take_lift (result : Except Error α) :
    (liftM result : Turn α).take session = (result, session) := by
  cases result <;> rfl

theorem take_tryCatch (turn : Turn α) (handle : Error → Turn α) :
    (tryCatch turn handle).take session =
      match turn.take session with
      | (.ok a, later) => (.ok a, later)
      | (.error error, later) => (handle error).take later := by
  change Turn.take (ExceptT.tryCatch turn handle) session = _
  unfold ExceptT.tryCatch take ExceptT.run ExceptT.mk
  rw [StateT.run_bind]
  change (match StateT.run turn session with | (result, later) => _) = _
  rcases StateT.run turn session with ⟨_ | _, _⟩ <;> rfl

@[simp] theorem take_modify (f : Session → Session) :
    (modify f : Turn Unit).take session = (.ok (), f session) := rfl

@[simp] theorem take_withEngine (f : World → Engine → α × Engine) :
    (withEngine f).take session = (.ok (f session.world session.engine).1,
      { session with engine := (f session.world session.engine).2 }) := rfl

/-- To imagine is to search for a model of the request. -/
theorem fst_take_imagine : ((imagine request).take session).1 =
    match (session.engine.model (.ofRequest session.world request)).1 with
    | .ok model => .ok model
    | .error failure => .error (.noExample failure) := by
  have same : Session.world { session with lastRequest := some request } = session.world := rfl
  simp only [imagine, take_bind, take_modify, take_withEngine, same]
  cases (session.engine.model (.ofRequest session.world request)).1 with
  | ok model => rfl
  | error failure => rfl

/-- To imagine what can be is never refused as a contradiction. -/
theorem imagine_ne_contradiction (built : (Blueprint.ofRequest session.world request).problem.Built)
    (satisfiable : (Blueprint.ofRequest session.world request).problem.Satisfiable) :
    ((imagine request).take session).1 ≠ .error (.noExample .contradiction) := by
  intro refused
  rw [fst_take_imagine] at refused
  cases found : (session.engine.model (.ofRequest session.world request)).1 with
  | ok model =>
    rw [found] at refused
    cases refused
  | error failure =>
    rw [found] at refused
    cases refused
    exact Engine.not_satisfiable_of_model built found satisfiable

end Turn

end Worldsmith
