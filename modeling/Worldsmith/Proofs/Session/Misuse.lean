import Worldsmith.Proofs.Session.Files
import Worldsmith.Proofs.Statement.Misuse

/-!
# What sessions can be misused for

The one thing to be asked of a session that it cannot do is to survey what it has never been asked
to imagine. All that a line needs, whether it is typed or stands in a definition file, is there once
the line is understood. To undo is to execute lines again that have been declarations, and no world
takes a declaration for a survey.

## Main definitions

* `Turn.Fair` — a turn never ends in the complaint that something has been misused.
* `IsDeclaration` — a line that some world takes for a declaration.

## Main statements

* `World.exists_command_of_stats` — no world takes for a declaration what another takes for a
  command to survey.
* `Knowledge.fair_define` — a line of a definition file is no misuse.
* `Session.Reachable.misuse_iff` — the only misuse is to ask for a survey of nothing.
-/

namespace Worldsmith

/-! ## Commands that every world understands -/

/-- Whether an element is a word. -/
def Element.isWord : Element → Bool
  | .word _ => true
  | .slot _ | .requirement _ => false

/-- Words are matched in the same way in every world. -/
theorem Element.matchAll_eq_of_words (world other : World) {elements : List Element}
    (words : elements.all isWord = true) (reader : Reader) (found : List Constituent) :
    matchAll world elements reader found = matchAll other elements reader found := by
  induction elements generalizing reader with
  | nil => rfl
  | cons element rest ih =>
    rw [List.all_cons, Bool.and_eq_true] at words
    cases element with
    | word key => rw [matchAll, matchAll, ih words.2]
    | requirement | slot => cases words.1

namespace Pattern

/-- The patterns of commands are those that are tried first. -/
theorem mem_commands_of_action {pattern : Pattern} {command : Command} (known : pattern ∈ library)
    (acts : pattern.action = .command command) : pattern ∈ commands := by
  have declares : ∀ other ∈ aboutKinds ++ aboutAdjectives ++ aboutVerbs ++ aboutProperties ++
      aboutExpectations, ∃ declaration, other.action = .declare declaration := by
    simp [aboutKinds, aboutAdjectives, aboutVerbs, aboutProperties, aboutExpectations, of]
  simp only [library, List.append_assoc] at known declares
  rcases List.mem_append.mp known with first | later
  · exact first
  · obtain ⟨declaration, other⟩ := declares pattern later
    rw [acts] at other
    cases other

theorem exists_command_of_mem {pattern : Pattern} (known : pattern ∈ commands) :
    ∃ command, pattern.action = .command command := by
  have all : ∀ pattern ∈ commands, ∃ command, pattern.action = .command command := by
    simp [commands, of]
  exact all pattern known

theorem words_of_stats :
    ∀ pattern ∈ commands, pattern.action = .command .stats →
      pattern.elements.all Element.isWord = true := by
  decide +kernel

/-- A sentence that a command could read is read by a command. -/
theorem exists_command_of_read? {world : World} {tokens : List Token} {reading : Reading}
    {pattern : Pattern} {index : Nat} (understood : understand world tokens = .ok reading)
    (known : pattern ∈ commands) (read : (pattern.read? world tokens index).isSome) :
    ∃ command, reading.pattern.action = .command command := by
  obtain ⟨others, whole⟩ : ∃ others, library = commands ++ others :=
    ⟨_, by simp only [library, List.append_assoc]; rfl⟩
  obtain ⟨place, inside, rfl⟩ := List.getElem_of_mem known
  have here : (commands[place], place) ∈ commands.zipIdx :=
    List.mk_mem_zipIdx_iff_getElem?.mpr (List.getElem?_eq_getElem inside)
  have some : (commands.zipIdx.findSome? fun entry =>
      entry.1.read? world tokens entry.2).isSome := by
    refine List.findSome?_isSome_iff.mpr ⟨_, here, ?_⟩
    simpa only [read?, Option.isSome_map] using read
  obtain ⟨first, found⟩ := Option.isSome_iff_exists.mp some
  unfold understand at understood
  split at understood
  case h_1 made =>
    cases understood
    have made : (library.zipIdx.findSome? fun entry => entry.1.read? world tokens entry.2) =
        Option.some reading := made
    rw [whole, List.zipIdx_append, List.findSome?_append, found] at made
    cases made
    obtain ⟨⟨pattern, index⟩, among, reads⟩ := List.exists_of_findSome?_eq_some found
    obtain ⟨_, -, rfl⟩ := Option.map_eq_some_iff.mp reads
    exact exists_command_of_mem (List.mem_of_getElem? (List.mk_mem_zipIdx_iff_getElem?.mp among))
  case h_2 => cases understood

end Pattern

/-- No world takes for a declaration what another takes for a command to survey. -/
theorem World.exists_command_of_stats {world other : World} {line : String}
    {reading reading' : Reading} (understood : world.understand line = .ok reading)
    (asks : reading.pattern.action = .command .stats)
    (understood' : other.understand line = .ok reading') :
    ∃ command, reading'.pattern.action = .command command := by
  obtain ⟨tokens, cut, place, read⟩ := World.read?_of_understand understood
  have known := Pattern.mem_commands_of_action (List.mem_of_getElem? place) asks
  have words := Pattern.words_of_stats _ known asks
  have same : reading.pattern.read? other (dropStops tokens) reading.index = some reading := by
    rw [Pattern.read?, ← Element.matchAll_eq_of_words world other words]
    exact read
  unfold World.understand Except.mapError at understood'
  rw [cut] at understood'
  split at understood'
  · cases understood'
  · rename_i made
    cases understood'
    exact Pattern.exists_command_of_read? made known (Option.isSome_of_eq_some same)

/-- Whether a line is one that some world takes for a declaration. -/
structure IsDeclaration (line : String) : Prop where
  trimmed : Text.trim line = line
  declares : ∃ (world : World) (reading : Reading) (declaration : Declaration),
    world.understand line = .ok reading ∧ reading.pattern.action = .declare declaration

/-- No session takes a declaration for a command to survey. -/
theorem IsDeclaration.ne_stats {line : String} (declaration : IsDeclaration line)
    {session : Session} {reading : Reading} (understands : session.Understands line reading) :
    reading.pattern.action ≠ .command .stats := by
  intro asks
  obtain ⟨world, reading', declared, understood, acts⟩ := declaration.declares
  have understood' := understands.understood
  rw [declaration.trimmed] at understood'
  obtain ⟨command, commands⟩ := World.exists_command_of_stats understood' asks understood
  rw [acts] at commands
  cases commands

/-! ## Knowledge -/

namespace Knowledge

variable {shelf : Shelf} {known : Knowledge} {line : String} {reading : Reading}
  {declaration : Declaration}

theorem fair_perform (provides : reading.Provides declaration.demands) (made : reading.IsMade) :
    Result.Fair (known.perform shelf line reading declaration) := by
  have fair := Reading.fair_perform provides made line (shelf.storage.menu shelf.settings)
    known.world
  unfold perform
  dsimp only
  split
  · exact .ok _
  · rename_i refused
    rw [refused] at fair
    exact fair.error

theorem fair_understand (world : World) (line : String) : Result.Fair (world.understand line) := by
  unfold World.understand Except.mapError
  split
  · exact nofun
  · exact .ok _

/-- A line of a definition file is refused for what it says only, or for what the files say that it
has loaded. -/
theorem fair_define_of_load {load : List (Id .kind) → Knowledge → Except Error Knowledge}
    (loads : ∀ kinds known, Result.Fair (load kinds known)) (path : String) (known : Knowledge)
    (line : String) : Result.Fair (known.define shelf load path line) := by
  refine (fair_understand _ _).bind fun reading understood => ?_
  obtain ⟨provides, made⟩ := World.provides_of_understand understood
  split
  · exact nofun
  · rename_i declaration acts
    rw [acts] at provides
    exact (fair_perform provides made).bind fun _ _ => loads _ _

theorem fair_load (shelf : Shelf) (fuel : Nat) (kinds : List (Id .kind)) (known : Knowledge) :
    Result.Fair (load shelf fuel kinds known) := by
  induction fuel generalizing kinds known with
  | zero => exact .ok _
  | succ fuel ih =>
    refine .foldlM (fun known kind _ => ?_) known
    unfold loadKind
    dsimp only
    split
    · exact .ok _
    split
    · exact .ok _
    · exact nofun
    · exact .foldlM (fun known line _ => fair_define_of_load ih _ known line) _

/-- A line of a definition file is no misuse, however deep the file is loaded within others. -/
theorem fair_define (shelf : Shelf) (fuel : Nat) (path : String) (known : Knowledge)
    (line : String) : Result.Fair (known.define shelf (load shelf fuel) path line) :=
  fair_define_of_load (fair_load shelf fuel) path known line

theorem fair_state (provides : reading.Provides declaration.demands) (made : reading.IsMade) :
    Result.Fair (known.state shelf line reading declaration) :=
  (fair_perform provides made).bind fun _ _ => fair_load _ _ _ _

end Knowledge

/-! ## Turns -/

namespace Turn

variable {α β : Type} {session : Session} {line : String} {reading : Reading}

/-- Whether a turn never ends in the complaint that something has been misused. -/
def Fair (turn : Turn α) : Prop := ∀ session, Result.Fair (turn.take session).1

namespace Fair

theorem of_pure (a : α) : Fair (pure a) := fun _ => .ok a

theorem of_lift {result : Except Error α} (fair : Result.Fair result) :
    Fair (liftM result : Turn α) := fun session => by rwa [take_lift]

theorem of_withEngine (f : World → Engine → α × Engine) : Fair (withEngine f) :=
  fun _ => .ok _

theorem bind {turn : Turn α} {next : α → Turn β} (first : Fair turn)
    (rest : ∀ a, Fair (next a)) : Fair (turn >>= next) := by
  intro session
  have fair := first session
  rw [take_bind]
  generalize turn.take session = taken at fair ⊢
  obtain ⟨outcome, later⟩ := taken
  cases outcome with
  | ok a => exact rest a later
  | error => exact fair.error

theorem of_get {next : Session → Turn β} (rest : ∀ session, Fair (next session)) :
    Fair (get >>= next) := fun session => rest session session

end Fair

theorem fair_imagine (request : Request) : Fair (imagine request) := by
  refine .bind (fun _ => .ok ()) fun _ => .bind (.of_withEngine _) fun outcome => ?_
  cases outcome with
  | ok model => exact .of_pure model
  | error failure => exact fun _ => nofun

theorem fair_save (name : String) : Fair (save name) := by
  intro session
  rw [save, take_bind, take_get]
  dsimp only
  cases session.shelf.storage.write
      (session.shelf.settings.file name Settings.definitionExtension)
      ("\n".intercalate session.transcript ++ "\n").toUTF8 with
  | error error =>
    intro misuse same
    cases same
  | ok storage => exact .ok _

/-- To survey is a misuse only of a session that has not been asked to imagine anything. -/
theorem fst_take_stats {misuse : Misuse} : (stats.take session).1 = .error (.misuse misuse) ↔
    misuse = .nothingImagined ∧ session.lastRequest = none := by
  rw [stats, take_bind, take_get]
  dsimp only
  cases session.lastRequest with
  | none => simp [eq_comm]
  | some request => simp [take_bind, -bind_pure_comp]

theorem fair_request (provides : reading.Provides [.noun]) (line : String) (limit : Nat) :
    Result.Fair (reading.request line limit) := by
  refine (provides.noun (by decide)).bind fun phrase _ => ?_
  split
  · exact nofun
  · dsimp only
    split_ifs
    · exact nofun
    · exact .ok _

/-- What a command looks for is there, so it is no misuse unless to survey or to undo is. -/
theorem fair_obey (undo : Turn (Option String)) {command : Command}
    (provides : reading.Provides command.demands) (undoing : command ≠ .undo)
    (surveying : command ≠ .stats) : Fair (obey undo command line reading) := by
  cases command with
  | imagine =>
    exact .of_get fun session => .bind (.of_lift (fair_request provides _ _)) fun request =>
      .bind (fair_imagine request) fun model => .of_pure _
  | undo => exact absurd rfl undoing
  | startOver => exact .bind (fun _ => .ok ()) fun _ => .of_pure _
  | save =>
    exact .bind (.of_lift (provides.text (by decide))) fun text =>
      .bind (fair_save _) fun path => .of_pure _
  | test => exact .bind (.of_withEngine _) fun inspection => .of_pure _
  | restate => exact .of_get fun session => .of_pure _
  | stats => exact absurd rfl surveying
  | help => exact .of_pure _

/-- A line is no misuse of a session that does not take it for a command to survey, unless to undo
is one. -/
theorem fair_executeBy {undo : Turn (Option String)} (undone : Result.Fair (undo.take session).1)
    (asks : ∀ reading, session.Understands line reading →
      reading.pattern.action ≠ .command .stats) :
    Result.Fair ((executeBy undo line).take session).1 := by
  rw [take_executeBy]
  split_ifs with remark
  · exact .ok _
  have spoken : isRemark (Text.trim line) = false := by simpa using remark
  have fair := Knowledge.fair_understand session.world (Text.trim line)
  cases understood : session.world.understand (Text.trim line) with
  | error error =>
    rw [understood] at fair
    exact fair.error
  | ok reading =>
    obtain ⟨provides, made⟩ := World.provides_of_understand understood
    dsimp only
    cases acts : reading.pattern.action with
    | command command =>
      rw [acts] at provides
      have surveying : command ≠ .stats := fun same => by
        subst same
        exact asks reading ⟨spoken, understood⟩ acts
      by_cases undoing : command = .undo
      · subst undoing
        dsimp only
        rw [obey, take_bind]
        generalize undo.take session = taken at undone ⊢
        obtain ⟨outcome, later⟩ := taken
        cases outcome with
        | error => exact undone.error
        | ok given => cases given <;> exact .ok _
      · exact fair_obey undo provides undoing surveying session
    | declare declaration =>
      rw [acts] at provides
      have stated : Result.Fair (session.knowledge.state session.shelf (Text.trim line) reading
          declaration) := Knowledge.fair_state provides made
      dsimp only
      split
      · exact .ok _
      · rename_i refused
        rw [refused] at stated
        exact stated.error

/-- To execute declarations again is no misuse, whatever they have come to mean. -/
theorem fair_replay {lines : List String} (declared : ∀ line ∈ lines, IsDeclaration line) :
    Fair (replay lines) := by
  induction lines with
  | nil => exact .of_pure ()
  | cons line rest ih =>
    obtain ⟨first, others⟩ := List.forall_mem_cons.mp declared
    have told : Fair (executeBy (pure none) line) := fun session =>
      fair_executeBy (.ok none) fun reading understands => first.ne_stats understands
    exact .bind (.bind told fun _ => .of_pure ()) fun _ => ih others

theorem fair_undo (declared : ∀ line ∈ session.transcript, IsDeclaration line) :
    Result.Fair (undo.take session).1 := by
  rw [take_undo]
  cases session.transcript.getLast? with
  | none => exact .ok none
  | some undone =>
    have replayed := fair_replay (fun line mem => declared line (List.dropLast_subset _ mem))
      session.reset
    dsimp only
    generalize (replay session.transcript.dropLast).take session.reset = taken at replayed ⊢
    obtain ⟨outcome, later⟩ := taken
    cases outcome with
    | ok done => exact .ok _
    | error => exact replayed.error

end Turn

/-! ## Sessions -/

/-- What is known has come from declarations. -/
theorem Knowledge.Arises.isDeclaration {known : Knowledge} {lines nouns : List String}
    (arises : known.Arises lines nouns) : ∀ line ∈ lines, IsDeclaration line := by
  induction arises with
  | nothing => exact nofun
  | @line known _ _ _ _ line _ _ learns _ before =>
    obtain ⟨reading, declaration, understood, acts, -⟩ := learns.stated
    refine List.forall_mem_append.mpr ⟨before, List.forall_mem_singleton.mpr ?_⟩
    exact ⟨learns.trimmed, known.world, reading, declaration, understood, acts⟩

namespace Session

variable {session : Session} {line : String}

/-- Whether all that is in the transcript of a session has been a declaration. -/
def IsDeclared (session : Session) : Prop := ∀ line ∈ session.transcript, IsDeclaration line

theorem Reachable.isDeclared (reachable : session.Reachable) : session.IsDeclared := by
  obtain ⟨nouns, arises⟩ := reachable.hasArisen
  exact arises.isDeclaration

/-- What a line that is understood as a command to survey comes to. -/
theorem fst_take_execute_of_stats {reading : Reading} {misuse : Misuse}
    (understands : session.Understands line reading)
    (asks : reading.pattern.action = .command .stats) :
    ((Turn.execute line).take session).1 = .error (.misuse misuse) ↔
      (Turn.stats.take session).1 = .error (.misuse misuse) := by
  rw [Turn.take_execute_of_understands understands, asks]
  dsimp only
  rw [Turn.obey, Turn.take_bind]
  generalize Turn.stats.take session = taken
  obtain ⟨outcome, later⟩ := taken
  cases outcome <;> simp

/-- Whatever has been done with a session and with files, a line is refused as a misuse only if it
asks to survey what has never been imagined. No line of a definition file ever is, and a sentence
that is understood is one of the library, in the place that it names. -/
theorem Reachable.misuse_iff (reachable : session.Reachable) :
    (∀ line misuse, ((Turn.execute line).take session).1 = .error (.misuse misuse) ↔
      misuse = .nothingImagined ∧ session.lastRequest = none ∧
        ∃ reading, session.Understands line reading ∧
          reading.pattern.action = .command .stats) ∧
    (∀ fuel path known line misuse,
      ((Turn.define (Turn.load fuel) path line).take (session.knowing known)).1 ≠
        .error (.misuse misuse)) ∧
    ∀ (world : World) line reading, world.understand line = .ok reading →
      Pattern.library[reading.index]? = some reading.pattern := by
  refine ⟨fun line misuse => ⟨fun refused => ?_, ?_⟩, fun fuel path known line misuse refused => ?_,
    fun world line reading read => ?_⟩
  · by_cases asks : ∃ reading, session.Understands line reading ∧
      reading.pattern.action = .command .stats
    · obtain ⟨reading, understands, surveys⟩ := asks
      rw [fst_take_execute_of_stats understands surveys, Turn.fst_take_stats] at refused
      exact ⟨refused.1, refused.2, reading, understands, surveys⟩
    · have fair : Result.Fair ((Turn.execute line).take session).1 :=
        Turn.fair_executeBy (Turn.fair_undo reachable.isDeclared)
          fun reading understands surveys => asks ⟨reading, understands, surveys⟩
      exact absurd refused (fair misuse)
  · rintro ⟨rfl, nothing, reading, understands, surveys⟩
    rw [fst_take_execute_of_stats understands surveys, Turn.fst_take_stats]
    exact ⟨rfl, nothing⟩
  · have failed := Turn.Comes.eq_error
      (Turn.comes_define (Turn.comes_load fuel) path line known) refused
    exact Knowledge.fair_define session.shelf fuel path known line misuse failed
  · obtain ⟨-, -, place, -⟩ := World.read?_of_understand read
    exact place

theorem asks_withCats : isRemark (Text.trim "stats") = false ∧ withCats.lastRequest = none ∧
    (withCats.world.understand (Text.trim "stats")).toOption.any
      (·.pattern.action = .command .stats) = true := by
  decide +kernel

/-- A session that knows of cats cannot survey them before it has been asked for any. -/
theorem misuse_withCats :
    ((Turn.execute "stats").take withCats).1 = .error (.misuse .nothingImagined) ∧
    (withCats.after (.imagine twoFuzzyCats)).Reachable ∧
    ((Turn.execute "stats").take (withCats.after (.imagine twoFuzzyCats))).1 ≠
      .error (.misuse .nothingImagined) := by
  have known : withCats.Reachable :=
    .move beforeCats (.line "a cat is a kind of animal") (.start _ _ _) trivial
  have asked : (withCats.after (.imagine twoFuzzyCats)).Reachable :=
    .move withCats _ known isIn_twoFuzzyCats
  obtain ⟨spoken, nothing, surveys⟩ := asks_withCats
  refine ⟨(known.misuse_iff.1 "stats" .nothingImagined).mpr ⟨rfl, nothing, ?_⟩, asked, ?_⟩
  · cases understood : withCats.world.understand (Text.trim "stats") with
    | error error =>
      rw [understood] at surveys
      cases surveys
    | ok reading =>
      rw [understood] at surveys
      exact ⟨reading, ⟨spoken, understood⟩, by simpa [Except.toOption] using surveys⟩
  · intro refused
    obtain ⟨-, nothing, -⟩ := (asked.misuse_iff.1 "stats" .nothingImagined).mp refused
    have remembered := Turn.lastRequest_imagine twoFuzzyCats withCats
    exact absurd (remembered.symm.trans nothing) nofun

end Session

end Worldsmith
