import Worldsmith.Proofs.Session.History
import Worldsmith.Proofs.World.Whole

/-!
# Whole sessions

Whatever is done with a session, and whatever happens to files meanwhile, its world is one that
declarations lead to. The last request asks for what is in that world: a request is remembered
only in a world that it has been read in, worlds grow, and to start over is to forget it.

## Main definitions

* `Session.Reachable` — a session that anything can have been done with.

## Main statements

* `Session.Reachable.isWhole_world` — its world is whole, and has what was asked for last.
-/

namespace Worldsmith

/-- Whether what a request asks for is in a world. -/
structure Request.IsIn (world : World) (request : Request) : Prop where
  kind : world.Owns request.kind
  modifiers : ∀ trait ∈ request.modifiers, trait.IsIn world

theorem Request.IsIn.mono {world later : World} {request : Request} (isIn : request.IsIn world)
    (grows : world.Grows later) : request.IsIn later :=
  ⟨isIn.kind.mono grows, forall_isIn_mono grows isIn.modifiers⟩

theorem Reading.isIn_of_requestedTrait? {world : World} {modifier : Modifier} {trait : Trait}
    (isIn : modifier.mention.IsIn world) (asks : requestedTrait? modifier = some trait) :
    trait.IsIn world := by
  obtain ⟨mention, positive⟩ := modifier
  cases mention with
  | known concept =>
    obtain ⟨quality, some, rfl⟩ := Option.map_eq_some_iff.mp asks
    cases concept <;> cases some <;> exact isIn
  | coined => cases asks

/-- A request that a sentence makes asks for what is in the world. -/
theorem Reading.isIn_of_request {world : World} {reading : Reading} {line : String} {limit : Nat}
    {request : Request} (isIn : reading.IsIn world)
    (made : reading.request line limit = .ok request) : request.IsIn world := by
  obtain ⟨phrase, read, made⟩ := exists_of_bind_eq_ok made
  obtain ⟨constituent, mem, select⟩ := Statement.IsIn.exists_of_nth read
  cases constituent <;> cases select
  have phraseIn : phrase.IsIn world := isIn _ mem
  split at made
  · cases made
  · rename_i kind modifiers requested
    have asked : request = ⟨kind, modifiers, requestedCount phrase⟩ := by
      dsimp only at made
      split_ifs at made
      · cases made
      · cases made
        rfl
    subst asked
    unfold requested? at requested
    split at requested
    · rename_i kind' modifiers' _ head modified
      cases requested
      refine ⟨?_, fun trait mem => ?_⟩
      · have held := phraseIn.head
        rw [head] at held
        exact held
      · obtain ⟨modifier, said, asks⟩ := exists_of_mapM_eq_some modified trait mem
        exact isIn_of_requestedTrait? (phraseIn.modifiers modifier said) asks
    · cases requested

/-! ## What is known -/

namespace Knowledge

variable {shelf : Shelf} {known later : Knowledge} {path line : String} {kinds : List (Id .kind)}
  {reading : Reading} {declaration : Declaration} {fuel : Nat}

/-- Whether declarations lead from one world that they lead to on to another. -/
def Evolves (known later : Knowledge) : Prop :=
  known.world.Reachable → later.world.Reachable ∧ known.world.Grows later.world

theorem evolves_self (known : Knowledge) : known.Evolves known :=
  fun reachable => ⟨reachable, known.world.grows_self⟩

theorem Evolves.trans {middle : Knowledge} (h : known.Evolves middle) (g : middle.Evolves later) :
    known.Evolves later := by
  intro reachable
  obtain ⟨reachable, first⟩ := h reachable
  obtain ⟨reachable, second⟩ := g reachable
  exact ⟨reachable, first.trans second⟩

theorem evolves_perform (understood : known.world.understand line = .ok reading)
    (declares : reading.pattern.action = .declare declaration)
    (made : known.perform shelf line reading declaration = .ok (kinds, later)) :
    known.Evolves later := by
  intro reachable
  unfold perform at made
  dsimp only at made
  split at made
  · rename_i performed
    cases made
    exact ⟨.declare _ _ line reading _ declaration _ reachable understood declares performed,
      (reachable.evolves.perform understood performed).grows⟩
  · cases made

theorem evolves_define {load : List (Id .kind) → Knowledge → Except Error Knowledge}
    (evolves : ∀ {kinds known later}, load kinds known = .ok later → known.Evolves later)
    (made : known.define shelf load path line = .ok later) : known.Evolves later := by
  obtain ⟨reading, understood, made⟩ := exists_of_bind_eq_ok made
  split at made
  · cases made
  · rename_i declares
    obtain ⟨⟨kinds, middle⟩, performed, made⟩ := exists_of_bind_eq_ok made
    exact (evolves_perform understood declares performed).trans (evolves made)

theorem evolves_load (made : load shelf fuel kinds known = .ok later) : known.Evolves later := by
  induction fuel generalizing kinds known later with
  | zero =>
    cases made
    exact evolves_self _
  | succ fuel ih =>
    refine rel_of_foldlM evolves_self Evolves.trans (fun {known kind later} _ loaded => ?_) made
    unfold loadKind at loaded
    dsimp only at loaded
    split at loaded
    · cases loaded
      exact evolves_self _
    · split at loaded
      · cases loaded
        exact fun reachable => ⟨reachable, World.grows_self _⟩
      · cases loaded
      · have rest : (known.lookFor (known.world.kindName kind)).Evolves later :=
          rel_of_foldlM evolves_self Evolves.trans (fun _ defined => evolves_define ih defined)
            loaded
        exact rest

theorem evolves_state (understood : known.world.understand line = .ok reading)
    (declares : reading.pattern.action = .declare declaration)
    (made : known.state shelf line reading declaration = .ok later) : known.Evolves later := by
  obtain ⟨⟨kinds, middle⟩, performed, loaded⟩ := exists_of_bind_eq_ok made
  exact (evolves_perform understood declares performed).trans (evolves_load loaded)

end Knowledge

/-! ## What is done with a session -/

/-- Whether a session's world is one that declarations lead to, and has what was asked for last. -/
structure Session.IsFounded (session : Session) : Prop where
  reachable : session.world.Reachable
  request : ∀ request ∈ session.lastRequest, request.IsIn session.world

namespace Session

variable {session later : Session} {line : String} {reading : Reading} {declaration : Declaration}

theorem isFounded_reset (session : Session) : session.reset.IsFounded := ⟨.empty, nofun⟩

theorem IsFounded.of_eq (founded : session.IsFounded) (world : later.world = session.world)
    (request : later.lastRequest = session.lastRequest) : later.IsFounded :=
  ⟨world ▸ founded.reachable, by rw [world, request]; exact founded.request⟩

theorem IsFounded.accept (founded : session.IsFounded) {knowledge : Knowledge}
    (understood : session.world.understand line = .ok reading)
    (declares : reading.pattern.action = .declare declaration)
    (stated : session.knowledge.state session.shelf line reading declaration = .ok knowledge) :
    (session.accept line knowledge).IsFounded := by
  obtain ⟨reachable, grows⟩ :=
    Knowledge.evolves_state understood declares stated founded.reachable
  exact ⟨reachable, fun request asked => (founded.request request asked).mono grows⟩

end Session

namespace Turn

open Session

variable {α β : Type} {session : Session} {request : Request} {line : String} {reading : Reading}

theorem lastRequest_imagine (request : Request) (session : Session) :
    ((imagine request).take session).2.lastRequest = some request := by
  simp only [imagine, take_bind, take_modify, take_withEngine]
  split <;> rfl

theorem isFounded_imagine (founded : session.IsFounded) (isIn : request.IsIn session.world) :
    ((imagine request).take session).2.IsFounded := by
  have same : ((imagine request).take session).2.world = session.world :=
    congrArg (fun told => told.1.world) (retains_imagine request session)
  refine ⟨same ▸ founded.reachable, fun asked mem => ?_⟩
  rw [lastRequest_imagine] at mem
  cases mem
  exact same ▸ isIn

/-- Whether a turn leaves sessions founded. -/
def Upholds (turn : Turn α) : Prop :=
  ∀ session, session.IsFounded → (turn.take session).2.IsFounded

namespace Upholds

theorem of_pure (a : α) : Upholds (pure a) := fun _ founded => founded

theorem bind {turn : Turn α} {next : α → Turn β} (first : Upholds turn)
    (rest : ∀ a, Upholds (next a)) : Upholds (turn >>= next) := by
  intro session founded
  rw [take_bind]
  have middle := first session founded
  generalize turn.take session = taken at middle ⊢
  obtain ⟨outcome, later⟩ := taken
  cases outcome with
  | error error => exact middle
  | ok a => exact rest a later middle

end Upholds

theorem upholds_test : Upholds test := fun _ founded => founded.of_eq rfl rfl

theorem upholds_stats : Upholds stats := by
  intro session founded
  rw [stats, take_bind, take_get]
  dsimp only
  split <;> exact founded.of_eq rfl rfl

theorem upholds_save (name : String) : Upholds (save name) := by
  intro session founded
  rw [save, take_bind, take_get]
  dsimp only
  split <;> exact founded.of_eq rfl rfl

/-- A command leaves a session founded if to undo does. -/
theorem isFounded_obey {undo : Turn (Option String)} (undoes : Upholds undo) (command : Command)
    (line : String) (founded : session.IsFounded) (isIn : reading.IsIn session.world) :
    ((obey undo command line reading).take session).2.IsFounded := by
  cases command with
  | imagine =>
    rw [obey, take_bind, take_get]
    dsimp only
    cases made : reading.request line session.shelf.settings.maxIndividuals with
    | error error => exact founded
    | ok request =>
      have imagined := isFounded_imagine founded (Reading.isIn_of_request isIn made)
      simp only [take_bind, take_lift]
      generalize (imagine request).take session = taken at imagined ⊢
      obtain ⟨outcome, later⟩ := taken
      cases outcome <;> exact imagined
  | undo =>
    refine Upholds.bind undoes (fun undone => ?_) session founded
    cases undone <;> exact .of_pure _
  | startOver => exact isFounded_reset session
  | save =>
    rw [obey, take_bind, take_lift]
    cases reading.text 0 with
    | error error => exact founded
    | ok text => exact (upholds_save _).bind (fun _ => .of_pure _) session founded
  | test => exact upholds_test.bind (fun _ => .of_pure _) session founded
  | restate => exact founded
  | stats => exact upholds_stats.bind (fun _ => .of_pure _) session founded
  | help => exact founded

theorem upholds_executeBy {undo : Turn (Option String)} (undoes : Upholds undo) (line : String) :
    Upholds (executeBy undo line) := by
  intro session founded
  rw [take_executeBy]
  split_ifs
  · exact founded
  cases understood : session.world.understand (Text.trim line) with
  | error error => exact founded
  | ok reading =>
    have isIn := World.isIn_of_understand founded.reachable.isSound.lexicon understood
    dsimp only
    cases declares : reading.pattern.action with
    | command command => exact isFounded_obey undoes command _ founded isIn
    | declare declaration =>
      dsimp only
      cases stated : session.knowledge.state session.shelf (Text.trim line) reading declaration with
      | error error => exact founded
      | ok knowledge => exact founded.accept understood declares stated

theorem upholds_replay (lines : List String) : Upholds (replay lines) := by
  induction lines with
  | nil => exact .of_pure ()
  | cons line rest ih =>
    exact .bind (.bind (upholds_executeBy (.of_pure none) line) fun _ => .of_pure ()) fun _ => ih

/-- To undo leads to what the other lines lead to, or back to what there was. -/
theorem upholds_undo : Upholds undo := by
  intro session founded
  rw [take_undo]
  cases session.transcript.getLast? with
  | none => exact founded
  | some undone =>
    have replayed := upholds_replay session.transcript.dropLast _ (isFounded_reset session)
    dsimp only
    generalize (replay session.transcript.dropLast).take session.reset = taken at replayed ⊢
    obtain ⟨outcome, later⟩ := taken
    cases outcome with
    | ok done => exact replayed
    | error error => exact founded.of_eq rfl rfl

theorem upholds_execute (line : String) : Upholds (execute line) :=
  upholds_executeBy upholds_undo line

end Turn

/-! ## Sessions -/

/-- Whether a request, if a move makes one, asks for what is in a world. -/
def Move.IsIn (world : World) : Move → Prop
  | .imagine request => request.IsIn world
  | _ => True

namespace Session

variable {session : Session}

/-- Whether a session can be got from a new one, whatever happens to files. -/
inductive Reachable : Session → Prop
  | start (settings : Settings) (seed : Nat) (storage : Storage) :
      Reachable (start settings seed storage)
  | move (session : Session) (move : Move) (before : Reachable session)
      (isIn : move.IsIn session.world) : Reachable (session.after move)

theorem IsFounded.after (founded : session.IsFounded) (move : Move)
    (isIn : move.IsIn session.world) : (session.after move).IsFounded := by
  cases move with
  | line line => exact Turn.upholds_execute line session founded
  | undo => exact Turn.upholds_undo session founded
  | reset => exact isFounded_reset session
  | imagine request => exact Turn.isFounded_imagine founded isIn
  | test => exact Turn.upholds_test session founded
  | stats => exact Turn.upholds_stats session founded
  | save name => exact Turn.upholds_save name session founded
  | elsewhere storage => exact founded.of_eq rfl rfl

theorem Reachable.isFounded (reachable : session.Reachable) : session.IsFounded := by
  induction reachable with
  | start settings seed storage => exact ⟨.empty, nofun⟩
  | move session move _ isIn before => exact before.after move isIn

/-- A file that is run is a line after another, as far as they succeed. -/
theorem Reachable.runFile (reachable : session.Reachable) (path : String) :
    ((Turn.runFile path).take session).2.Reachable := by
  have each (lines : List String) (session : Session) (reachable : session.Reachable) :
      ((lines.mapM Turn.execute).take session).2.Reachable := by
    induction lines generalizing session with
    | nil => exact reachable
    | cons line rest ih =>
      have next : ((Turn.execute line).take session).2.Reachable :=
        reachable.move session (.line line) trivial
      rw [List.mapM_cons, Turn.take_bind]
      generalize (Turn.execute line).take session = taken at next ⊢
      obtain ⟨_ | reply, later⟩ := taken
      · exact next
      · have others := ih later next
        dsimp only
        rw [Turn.take_bind]
        generalize (rest.mapM Turn.execute).take later = taken at others ⊢
        obtain ⟨_ | replies, last⟩ := taken <;> exact others
  rw [Turn.runFile, Turn.take_bind, Turn.take_get]
  dsimp only
  split
  · exact reachable
  · exact each _ session reachable

/-- The world of a session is whole, whatever has been done with the session and with files, and
has what was asked for last. -/
theorem Reachable.isWhole_world (reachable : session.Reachable) : session.world.IsWhole ∧
    ∀ request ∈ session.lastRequest, request.IsIn session.world :=
  ⟨reachable.isFounded.reachable.isWhole, reachable.isFounded.request⟩

/-- Two fuzzy cats, in a session that has read about cats in a file. -/
def twoFuzzyCats : Request := ⟨⟨0⟩, [⟨.adjective ⟨0⟩, true⟩], 2⟩

theorem isIn_twoFuzzyCats : twoFuzzyCats.IsIn withCats.world := by
  have cats : withCats.world.kinds.size = 2 := by decide +kernel
  have fuzzy : withCats.world.adjectives.size = 1 := declares?_withCats.2.1
  refine ⟨Nat.lt_of_lt_of_eq Nat.zero_lt_two cats.symm, fun trait mem => ?_⟩
  obtain rfl := List.mem_singleton.mp mem
  exact Nat.lt_of_lt_of_eq Nat.zero_lt_one fuzzy.symm

/-- A session that has been asked for them remembers that, and its world has all that it takes. -/
theorem isWhole_twoFuzzyCats : (withCats.after (.imagine twoFuzzyCats)).Reachable ∧
    (withCats.after (.imagine twoFuzzyCats)).lastRequest = some twoFuzzyCats ∧
    (withCats.after (.imagine twoFuzzyCats)).world.IsWhole ∧
    ∀ request ∈ (withCats.after (.imagine twoFuzzyCats)).lastRequest,
      request.IsIn (withCats.after (.imagine twoFuzzyCats)).world := by
  have known : withCats.Reachable :=
    .move beforeCats (.line "a cat is a kind of animal") (.start _ _ _) trivial
  have asked : (withCats.after (.imagine twoFuzzyCats)).Reachable :=
    .move withCats _ known isIn_twoFuzzyCats
  exact ⟨asked, Turn.lastRequest_imagine _ _, asked.isWhole_world⟩

end Session

end Worldsmith
