import Mathlib.Data.List.DropRight
import Worldsmith.Proofs.Session.Execution
import Worldsmith.Proofs.Session.Loading

/-!
# What a session has been told

What a session knows is what its transcript leads to, from nothing and line by line. So it can be
told all of its transcript but the last line again, and then it knows what it knew before that line.
This goes on for as long as menus, and the definition files that have been looked for, stay as they
are.

## Main definitions

* `Knowledge.ComesOf` — knowledge is what telling some lines from nothing leads to.
* `Session.Reached` — a session that anything can have been done with, while files stay as they are.

## Main statements

* `Turn.take_replay` — to replay lines is to tell them.
* `Session.execute_cases` — what a line can do to what a session has been told.
* `Session.Reached.isRecorded` — all that a session knows comes of its transcript.
* `Session.Reached.undo_execute` — to undo a declaration leads back to what was known before.
-/

namespace Worldsmith

/-- A line without white space at its ends has none there. -/
theorem Text.trim_trim (s : String) : trim (trim s) = trim s := by
  have front (cs : List Char) (bare : cs.dropWhile isBlank = cs) :
      (cs.rdropWhile isBlank).dropWhile isBlank = cs.rdropWhile isBlank := by
    rw [List.dropWhile_eq_self_iff] at bare ⊢
    obtain ⟨back, whole⟩ := List.rdropWhile_prefix isBlank cs
    intro some
    generalize cs.rdropWhile isBlank = rest at whole some ⊢
    subst whole
    have first := bare (some.trans_le (by simp))
    rwa [List.getElem_append_left some] at first
  have same := front (s.toList.dropWhile isBlank) (List.dropWhile_idempotent _ _)
  have back := List.rdropWhile_idempotent isBlank (s.toList.dropWhile isBlank)
  simp only [trim, String.toList_ofList]
  simp only [List.rdropWhile] at same back
  rw [same, back]

/-! ## Telling lines -/

/-- Whether a line is a declaration that knowledge takes in, and what it comes to. -/
structure Knowledge.Learns (shelf : Shelf) (known : Knowledge) (line : String) (later : Knowledge) :
    Prop where
  trimmed : Text.trim line = line
  spoken : isRemark line = false
  stated : ∃ reading declaration, known.world.understand line = .ok reading ∧
    reading.pattern.action = .declare declaration ∧
      known.state shelf line reading declaration = .ok later

/-- Whether knowledge is what telling some lines leads to, one after another and from nothing. -/
inductive Knowledge.ComesOf (shelf : Shelf) : Knowledge → List String → Prop
  | nothing : ComesOf shelf .empty []
  | line {known later : Knowledge} {lines : List String} {line : String}
      (before : ComesOf shelf known lines) (learns : known.Learns shelf line later) :
      ComesOf shelf later (lines ++ [line])

namespace Knowledge

variable {shelf other : Shelf} {known later : Knowledge} {line : String} {lines : List String}

theorem Learns.of_serves (learns : known.Learns shelf line later)
    (serves : shelf.Serves later.loaded other) : known.Learns other line later := by
  obtain ⟨reading, declaration, understood, declares, stated⟩ := learns.stated
  exact ⟨learns.trimmed, learns.spoken, reading, declaration, understood, declares,
    state_eq_ok_of_serves serves stated⟩

theorem Learns.loaded_subset (learns : known.Learns shelf line later) :
    known.loaded ⊆ later.loaded := by
  obtain ⟨_, _, _, _, stated⟩ := learns.stated
  exact loaded_subset_of_state stated

/-- Lines lead to the same knowledge as long as files stay as they are. -/
theorem ComesOf.of_serves (comes : known.ComesOf shelf lines)
    (serves : shelf.Serves known.loaded other) : known.ComesOf other lines := by
  induction comes with
  | nothing => exact .nothing
  | line before learns ih =>
    exact .line (ih (serves.mono learns.loaded_subset)) (learns.of_serves serves)

end Knowledge

namespace Turn

variable {session : Session} {line : String} {lines : List String} {known later : Knowledge}

/-- A declaration that is told is accepted, whatever it would mean to undo. -/
theorem take_executeBy_of_learns (undo : Turn (Option String))
    (learns : session.knowledge.Learns session.shelf line later) :
    (executeBy undo line).take session = (.ok .accepted, session.accept line later) := by
  obtain ⟨reading, declaration, understood, declares, stated⟩ := learns.stated
  rw [take_executeBy, learns.trimmed, learns.spoken, Session.world, understood]
  simp only [declares, stated]
  rfl

theorem take_discard {α : Type} {turn : Turn α} {a : α} {after : Session}
    (made : turn.take session = (.ok a, after)) :
    (discard turn).take session = (.ok (), after) := by
  change (turn >>= fun _ => pure ()).take session = _
  rw [take_bind, made]
  rfl

theorem replay_append (lines : List String) (line : String) :
    replay (lines ++ [line]) = replay lines >>= fun _ => discard (executeBy (pure none) line) := by
  simp [replay]

/-- To replay lines is to tell them. -/
theorem take_replay (comes : known.ComesOf session.shelf lines) :
    (replay lines).take session.reset =
      (.ok (), { session.reset with knowledge := known, transcript := lines }) := by
  induction comes with
  | nothing => rfl
  | @line known later lines line before learns ih =>
    rw [replay_append, take_bind, ih]
    exact take_discard (take_executeBy_of_learns _ learns)

/-- To undo the last declaration is to tell those before it again. -/
theorem take_undo_accept (comes : session.knowledge.ComesOf session.shelf session.transcript)
    (line : String) (later : Knowledge) : undo.take (session.accept line later) =
      (.ok (some line), { session with lastRequest := none }) := by
  have same : (session.accept line later).reset = session.reset := rfl
  rw [take_undo, same]
  simp only [Session.accept, List.getLast?_concat, List.dropLast_concat, take_replay comes]
  rfl

end Turn

/-! ## Sessions -/

/-- What can be done with a session, or around it. -/
inductive Move where
  | line (line : String)
  | undo
  | reset
  | imagine (request : Request)
  | test
  | stats
  | save (name : String)
  /-- Somebody else changes files. -/
  | elsewhere (storage : Storage)

namespace Session

variable {session : Session} {line : String} {reading : Reading} {declaration : Declaration}

/-- A session with other files. -/
def withStorage (session : Session) (storage : Storage) : Session :=
  { session with shelf := { session.shelf with storage := storage } }

/-- The session after a move, whatever comes of it. -/
def after (session : Session) : Move → Session
  | .line line => ((Turn.execute line).take session).2
  | .undo => (Turn.undo.take session).2
  | .reset => session.reset
  | .imagine request => ((Turn.imagine request).take session).2
  | .test => (Turn.test.take session).2
  | .stats => (Turn.stats.take session).2
  | .save name => ((Turn.save name).take session).2
  | .elsewhere storage => session.withStorage storage

/-- Whether a session can be got from a new one, while menus, and the definition files that have
been looked for, stay as they are. -/
inductive Reached : Session → Prop
  | start (settings : Settings) (seed : Nat) (storage : Storage) :
      Reached (start settings seed storage)
  | move (session : Session) (move : Move) (before : Reached session)
      (kept : session.shelf.Agrees session.knowledge.loaded (session.after move).shelf) :
      Reached (session.after move)

/-- Whether what a session knows comes of its transcript. -/
def IsRecorded (session : Session) : Prop :=
  session.knowledge.ComesOf session.shelf session.transcript

/-- A session that is told nothing goes on knowing what comes of its transcript. -/
theorem IsRecorded.of_told_eq {later : Session} (recorded : session.IsRecorded)
    (same : later.told = session.told)
    (kept : session.shelf.Serves session.knowledge.loaded later.shelf) : later.IsRecorded := by
  obtain ⟨knowledge, transcript⟩ := Prod.mk.inj same
  rw [IsRecorded, knowledge, transcript]
  exact recorded.of_serves kept

theorem learns_of_understands (understands : session.Understands line reading)
    (declares : reading.pattern.action = .declare declaration) {later : Knowledge}
    (stated : session.knowledge.state session.shelf (Text.trim line) reading declaration =
      .ok later) : session.knowledge.Learns session.shelf (Text.trim line) later :=
  ⟨Text.trim_trim line, understands.spoken, reading, declaration, understands.understood, declares,
    stated⟩

theorem isRecorded_reset (session : Session) : session.reset.IsRecorded := .nothing

theorem IsRecorded.accept (recorded : session.IsRecorded) {later : Knowledge}
    (learns : session.knowledge.Learns session.shelf line later) :
    (session.accept line later).IsRecorded :=
  .line recorded learns

/-- What a session knows either is nothing, or has come of accepting a last line. -/
theorem IsRecorded.eq_accept (recorded : session.IsRecorded) : session.transcript = [] ∨
    ∃ (before : Session) (line : String) (later : Knowledge),
      session = before.accept line later ∧ before.IsRecorded := by
  obtain ⟨shelf, knowledge, transcript, lastRequest, engine⟩ := session
  cases recorded with
  | nothing => exact .inl rfl
  | @line known _ lines line comes learns =>
    exact .inr ⟨⟨shelf, known, lines, lastRequest, engine⟩, line, knowledge, rfl, comes⟩

/-- Undoing leaves a session with what comes of its transcript. -/
theorem IsRecorded.undo (recorded : session.IsRecorded) :
    (Turn.undo.take session).2.IsRecorded := by
  rcases recorded.eq_accept with none | ⟨before, line, later, rfl, comes⟩
  · rw [Turn.take_undo, none]
    exact recorded
  · rw [Turn.take_undo_accept comes]
    exact comes

theorem snd_take_obey_undo (undo : Turn (Option String)) (line : String) (reading : Reading)
    (session : Session) :
    ((Turn.obey undo .undo line reading).take session).2 = (undo.take session).2 := by
  rw [Turn.obey, Turn.take_bind]
  generalize undo.take session = taken
  obtain ⟨outcome, later⟩ := taken
  rcases outcome with error | undone
  · rfl
  · cases undone <;> rfl

/-- What a line can do to what a session has been told, whatever it means to undo: nothing, undo,
have all forgotten, or add a declaration. -/
theorem executeBy_cases {undo : Turn (Option String)} {outcome : Except Error Reply}
    {after : Session} (taken : (Turn.executeBy undo line).take session = (outcome, after)) :
    after.told = session.told ∨ after = (undo.take session).2 ∨ after = session.reset ∨
      ∃ later, session.knowledge.Learns session.shelf (Text.trim line) later ∧
        after = session.accept (Text.trim line) later := by
  rw [Turn.take_executeBy] at taken
  split_ifs at taken with remark
  · cases taken
    exact .inl rfl
  have spoken : isRemark (Text.trim line) = false := by simpa using remark
  cases understood : session.world.understand (Text.trim line) with
  | error error =>
    rw [understood] at taken
    cases taken
    exact .inl rfl
  | ok reading =>
    rw [understood] at taken
    dsimp only at taken
    cases acts : reading.pattern.action with
    | command command =>
      rw [acts] at taken
      have last : _ = after := congrArg Prod.snd taken
      subst last
      by_cases undoing : command = .undo
      · subst undoing
        exact .inr (.inl (snd_take_obey_undo undo _ _ session))
      by_cases restarting : command = .startOver
      · subst restarting
        exact .inr (.inr (.inl rfl))
      exact .inl (Turn.retains_obey undo undoing restarting session)
    | declare declaration =>
      rw [acts] at taken
      dsimp only at taken
      split at taken
      · rename_i later stated
        cases taken
        exact .inr (.inr (.inr
          ⟨later, learns_of_understands ⟨spoken, understood⟩ acts stated, rfl⟩))
      · cases taken
        exact .inl rfl

/-- What a line can do to what a session has been told: nothing, undo the last declaration, have
all forgotten, or add a declaration. -/
theorem execute_cases {outcome : Except Error Reply} {after : Session}
    (taken : (Turn.execute line).take session = (outcome, after)) :
    after.told = session.told ∨ after = (Turn.undo.take session).2 ∨ after = session.reset ∨
      ∃ later, session.knowledge.Learns session.shelf (Text.trim line) later ∧
        after = session.accept (Text.trim line) later :=
  executeBy_cases taken

/-- Executing a line leaves a session with what comes of its transcript. -/
theorem IsRecorded.execute (recorded : session.IsRecorded) (line : String)
    (kept : session.shelf.Serves session.knowledge.loaded
      ((Turn.execute line).take session).2.shelf) :
    ((Turn.execute line).take session).2.IsRecorded := by
  generalize taken : (Turn.execute line).take session = result at kept ⊢
  obtain ⟨outcome, after⟩ := result
  obtain same | rfl | rfl | ⟨later, learns, rfl⟩ := execute_cases taken
  · exact recorded.of_told_eq same kept
  · exact recorded.undo
  · exact isRecorded_reset session
  · exact recorded.accept learns

/-- Any move leaves a session with what comes of its transcript, while files stay as they are. -/
theorem IsRecorded.after (recorded : session.IsRecorded) (move : Move)
    (kept : session.shelf.Serves session.knowledge.loaded (session.after move).shelf) :
    (session.after move).IsRecorded := by
  cases move with
  | line line =>
    rw [Session.after] at kept ⊢
    exact recorded.execute line kept
  | undo => exact recorded.undo
  | reset => exact isRecorded_reset session
  | imagine request => exact recorded.of_told_eq (Turn.retains_imagine request session) kept
  | test => exact recorded.of_told_eq rfl kept
  | stats => exact recorded.of_told_eq (Turn.retains_stats session) kept
  | save name => exact recorded.of_told_eq (Turn.retains_save name session) kept
  | elsewhere storage => exact recorded.of_told_eq rfl kept

theorem Reached.isRecorded (reached : session.Reached) : session.IsRecorded := by
  induction reached with
  | start settings seed storage => exact .nothing
  | move session move _ kept before => exact before.after move kept.serves

/-- A declaration leaves files as they are. -/
theorem shelf_of_declares? (declares : session.declares? line = some declaration) :
    (session.after (.line line)).shelf = session.shelf := by
  obtain ⟨reading, understands, acts⟩ := exists_of_declares? declares
  rw [after, Turn.take_execute_of_understands understands, acts]
  dsimp only
  split <;> rfl

theorem Reached.declare (reached : session.Reached)
    (declares : session.declares? line = some declaration) :
    (session.after (.line line)).Reached :=
  .move session (.line line) reached (shelf_of_declares? declares ▸ .refl _ _)

/-- All that is known to a session that was got while files stayed as they are comes of its
transcript, and to undo what has just been declared leads back to where that was declared. -/
theorem Reached.undo_execute (reached : session.Reached) :
    (Turn.replay session.transcript).take session.reset =
      (.ok (), { session with lastRequest := none }) ∧
    ∀ line reading declaration reply later, session.Understands line reading →
      reading.pattern.action = .declare declaration →
      (Turn.execute line).take session = (.ok reply, later) →
      Turn.undo.take later =
        (.ok (some (Text.trim line)), { session with lastRequest := none }) := by
  have recorded := reached.isRecorded
  refine ⟨Turn.take_replay recorded, ?_⟩
  intro line reading declaration reply later understands declares accepted
  rw [Turn.take_execute_of_understands understands, declares] at accepted
  dsimp only at accepted
  split at accepted
  · cases accepted
    exact Turn.take_undo_accept recorded _ _
  · cases accepted

/-- A session that can find out what cats can be. -/
def beforeCats : Session :=
  start .default 0 ⟨[(["cat.gen"], .file "cats can be fuzzy".toUTF8)], .nothing⟩

/-- A session that has found it out. -/
def withCats : Session := beforeCats.after (.line "a cat is a kind of animal")

theorem declares?_withCats : beforeCats.declares? "a cat is a kind of animal" = some .subkind ∧
    withCats.world.adjectives.size = 1 ∧
    withCats.declares? "a lion is a kind of cat" = some .subkind ∧
    ((Turn.execute "a lion is a kind of cat").take withCats).1.isOk = true ∧
    Text.trim "a lion is a kind of cat" = "a lion is a kind of cat" := by
  decide +kernel

/-- A session that has been told of lions, too, forgets them and goes on knowing about cats. -/
theorem undo_execute_lion : withCats.world.adjectives.size = 1 ∧
    ∃ reply later, (Turn.execute "a lion is a kind of cat").take withCats = (.ok reply, later) ∧
      Turn.undo.take later =
        (.ok (some "a lion is a kind of cat"), { withCats with lastRequest := none }) := by
  obtain ⟨cats, fuzzy, lions, accepted, trimmed⟩ := declares?_withCats
  have before : beforeCats.Reached := .start _ _ _
  have reached : withCats.Reached := before.declare cats
  obtain ⟨reading, understands, declares⟩ := exists_of_declares? lions
  refine ⟨fuzzy, ?_⟩
  cases taken : (Turn.execute "a lion is a kind of cat").take withCats with
  | mk outcome later =>
    rw [taken] at accepted
    cases outcome with
    | error error => cases accepted
    | ok reply =>
      have undone := reached.undo_execute.2 _ _ _ _ _ understands declares taken
      rw [trimmed] at undone
      exact ⟨reply, later, rfl, undone⟩

end Session

end Worldsmith
