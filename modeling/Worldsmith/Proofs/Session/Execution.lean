import Worldsmith.Proofs.Session.Telling
import Worldsmith.Session.Execution

/-!
# What lines leave alone

A session that refuses a line goes on as if the line had never been said, however far it had got
with it, and a session that is asked something is told nothing by that. Only declarations are added
to the transcript, each as it was said.

## Main definitions

* `Session.told` — what a session has been told, and what has come of it.
* `Turn.Retains` — a turn leaves that alone.
* `Turn.Recoils` — a turn that fails does.

## Main statements

* `Turn.take_executeBy`, `Turn.take_undo` — what executing and undoing a line come to.
* `Turn.recoils_execute` — no line that is refused changes what a session has been told.
* `Turn.execute_told` — what becomes of what a session has been told, by what a line is.
-/

namespace Worldsmith

/-- What a session has been told, and what has come of it. -/
def Session.told (session : Session) : Knowledge × List String :=
  (session.knowledge, session.transcript)

/-- Whether a line says something that a session understands. -/
structure Session.Understands (session : Session) (line : String) (reading : Reading) : Prop where
  spoken : isRemark (Text.trim line) = false
  understood : session.world.understand (Text.trim line) = .ok reading

/-- What a session takes a line to declare. -/
def Session.declares? (session : Session) (line : String) : Option Declaration :=
  if isRemark (Text.trim line) then none
  else
    match session.world.understand (Text.trim line) with
    | .error _ => none
    | .ok reading =>
      match reading.pattern.action with
      | .declare declaration => some declaration
      | .command _ => none

theorem Session.exists_of_declares? {session : Session} {line : String} {declaration : Declaration}
    (declares : session.declares? line = some declaration) :
    ∃ reading, session.Understands line reading ∧
      reading.pattern.action = .declare declaration := by
  unfold declares? at declares
  split_ifs at declares with remark
  split at declares
  · cases declares
  · rename_i reading understood
    split at declares
    · rename_i acts
      cases declares
      exact ⟨reading, ⟨by simpa using remark, understood⟩, acts⟩
    · cases declares

namespace Turn

variable {α β : Type} {session : Session} {line : String} {reading : Reading}

/-! ## What turns come to -/

theorem take_executeBy (undo : Turn (Option String)) (line : String) :
    (executeBy undo line).take session =
      if isRemark (Text.trim line) then (.ok .accepted, session)
      else
        match session.world.understand (Text.trim line) with
        | .error error => (.error error, session)
        | .ok reading =>
          match reading.pattern.action with
          | .command command => (obey undo command (Text.trim line) reading).take session
          | .declare declaration =>
            match session.knowledge.state session.shelf (Text.trim line) reading declaration with
            | .ok knowledge => (.ok .accepted, session.accept (Text.trim line) knowledge)
            | .error error => (.error error, session) := by
  unfold executeBy
  dsimp only
  split
  · rfl
  · simp only [take_bind, take_get, take_lift]
    cases session.world.understand (Text.trim line) with
    | error => rfl
    | ok reading =>
      dsimp only
      cases reading.pattern.action with
      | command => rfl
      | declare declaration =>
        simp only [take_bind, take_declare]
        cases session.knowledge.state session.shelf (Text.trim line) reading declaration <;> rfl

theorem take_undo : undo.take session =
    match session.transcript.getLast? with
    | none => (.ok none, session)
    | some undone =>
      match (replay session.transcript.dropLast).take session.reset with
      | (.ok (), later) => (.ok (some undone), later)
      | (.error error, later) =>
        (.error error, { later with
          knowledge := session.knowledge
          transcript := session.transcript
          lastRequest := session.lastRequest }) := by
  unfold undo
  simp only [take_bind, take_get]
  cases session.transcript.getLast? with
  | none => rfl
  | some undone =>
    simp only [take_bind, take_modify, take_tryCatch]
    rcases (replay session.transcript.dropLast).take session.reset with ⟨_ | _, _⟩ <;> rfl

/-! ## Turns that only ask -/

/-- Whether a turn leaves alone what the session has been told. -/
def Retains (turn : Turn α) : Prop := ∀ session, (turn.take session).2.told = session.told

namespace Retains

theorem of_pure (a : α) : Retains (pure a) := fun _ => rfl

theorem of_throw (error : Error) : Retains (throw error : Turn α) := fun _ => rfl

theorem of_lift (result : Except Error α) : Retains (liftM result : Turn α) :=
  fun session => by rw [take_lift]

theorem of_withEngine (f : World → Engine → α × Engine) : Retains (withEngine f) := fun _ => rfl

theorem bind {turn : Turn α} {next : α → Turn β} (first : Retains turn)
    (rest : ∀ a, Retains (next a)) : Retains (turn >>= next) := by
  intro session
  rw [take_bind]
  have before := first session
  generalize turn.take session = taken at before ⊢
  obtain ⟨outcome, later⟩ := taken
  cases outcome with
  | error error => exact before
  | ok a => exact (rest a later).trans before

/-- What is asked may depend on the session. -/
theorem of_get {next : Session → Turn β} (rest : ∀ session, Retains (next session)) :
    Retains (get >>= next) :=
  fun session => rest session session

end Retains

theorem retains_imagine (request : Request) : Retains (imagine request) := by
  refine .bind (fun _ => rfl) fun _ => .bind (.of_withEngine _) fun outcome => ?_
  cases outcome with
  | ok model => exact .of_pure model
  | error failure => exact .of_throw _

theorem retains_stats : Retains stats := by
  refine .of_get fun session => ?_
  split
  · exact .of_throw _
  · exact .bind (.of_withEngine _) fun survey => .of_pure _

/-- To save what a session has been told is not to tell it anything. -/
theorem retains_save (name : String) : Retains (save name) := by
  intro session
  rw [save, take_bind, take_get]
  dsimp only
  split <;> rfl

/-- A command leaves alone what the session has been told, unless it is meant not to. -/
theorem retains_obey (undo : Turn (Option String)) {command : Command} (undoing : command ≠ .undo)
    (restarting : command ≠ .startOver) : Retains (obey undo command line reading) := by
  cases command with
  | imagine =>
    exact .of_get fun session => .bind (.of_lift _) fun request =>
      .bind (retains_imagine request) fun model => .of_pure _
  | undo => exact absurd rfl undoing
  | startOver => exact absurd rfl restarting
  | save =>
    exact .bind (.of_lift _) fun text => .bind (retains_save _) fun path => .of_pure _
  | test => exact .bind (.of_withEngine _) fun inspection => .of_pure _
  | restate => exact .of_get fun session => .of_pure _
  | stats => exact .bind retains_stats fun report => .of_pure _
  | help => exact .of_pure _

/-! ## Turns that fail -/

/-- Whether a turn that fails leaves alone what the session has been told. -/
def Recoils (turn : Turn α) : Prop :=
  ∀ session error later, turn.take session = (.error error, later) → later.told = session.told

theorem Retains.recoils {turn : Turn α} (retains : Retains turn) : Recoils turn := by
  intro session error later refused
  have same := retains session
  rwa [refused] at same

/-- A session that cannot be told again what is left gets back what it had been told. -/
theorem recoils_undo : Recoils undo := by
  intro session error later refused
  rw [take_undo] at refused
  split at refused
  · cases refused
  · split at refused
    · cases refused
    · cases refused
      rfl

theorem recoils_obey {undo : Turn (Option String)} (recoils : Recoils undo) (command : Command) :
    Recoils (obey undo command line reading) := by
  by_cases undoing : command = .undo
  · subst undoing
    intro session error later refused
    rw [obey, take_bind] at refused
    split at refused
    · rename_i outcome _ _
      cases outcome <;> cases refused
    · rename_i failed
      cases refused
      exact recoils session _ _ failed
  by_cases restarting : command = .startOver
  · subst restarting
    intro session error later refused
    cases refused
  exact (retains_obey undo undoing restarting).recoils

theorem recoils_executeBy {undo : Turn (Option String)} (recoils : Recoils undo) (line : String) :
    Recoils (executeBy undo line) := by
  intro session error later refused
  rw [take_executeBy] at refused
  split_ifs at refused
  · cases refused
  split at refused
  · cases refused
    rfl
  · split at refused
    · exact recoils_obey recoils _ session error later refused
    · split at refused
      · cases refused
      · cases refused
        rfl

/-- No line that is refused changes what a session has been told. -/
theorem recoils_execute (line : String) : Recoils (execute line) :=
  recoils_executeBy recoils_undo line

/-! ## Lines -/

/-- What a line that is understood comes to. -/
theorem take_execute_of_understands (understands : session.Understands line reading) :
    (execute line).take session =
      match reading.pattern.action with
      | .command command => (obey undo command (Text.trim line) reading).take session
      | .declare declaration =>
        match session.knowledge.state session.shelf (Text.trim line) reading declaration with
        | .ok knowledge => (.ok .accepted, session.accept (Text.trim line) knowledge)
        | .error error => (.error error, session) := by
  rw [execute, take_executeBy, understands.understood, understands.spoken]
  rfl

/-- A line that is refused, says nothing or only asks for something leaves alone what a session has
been told, and a declaration that is accepted is added to the transcript as it was said. -/
theorem execute_told (line : String) (session : Session) :
    (∀ error later, (execute line).take session = (.error error, later) →
      later.told = session.told) ∧
    (isRemark (Text.trim line) = true → (execute line).take session = (.ok .accepted, session)) ∧
    ∀ reading, session.Understands line reading →
      (∀ command, reading.pattern.action = .command command → command ≠ .undo →
        command ≠ .startOver → ((execute line).take session).2.told = session.told) ∧
      (∀ declaration reply later, reading.pattern.action = .declare declaration →
        (execute line).take session = (.ok reply, later) →
          later.transcript = session.transcript ++ [Text.trim line]) := by
  refine ⟨recoils_execute line session, fun remark => ?_, fun reading understands => ⟨?_, ?_⟩⟩
  · rw [execute, take_executeBy, if_pos remark]
  · intro command asks undoing restarting
    rw [take_execute_of_understands understands, asks]
    exact retains_obey undo undoing restarting session
  · intro declaration reply later declares accepted
    rw [take_execute_of_understands understands, declares] at accepted
    dsimp only at accepted
    split at accepted
    · cases accepted
      rfl
    · cases accepted

end Turn

end Worldsmith
