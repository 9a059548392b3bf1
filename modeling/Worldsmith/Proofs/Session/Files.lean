import Worldsmith.Proofs.Session.Wholeness

/-!
# Running definition files

A file is run because of a noun that has not been looked for, and the noun has been from then on.
So files that speak of each other's nouns do not go round in circles, and no two of those that have
been run for what a session knows are for the same noun. Files that were run for a line that was
refused in the end are forgotten with it, and may be run again.

## Main definitions

* `Knowledge.Runs` — what is loaded, with the nouns whose files are run for it.
* `Knowledge.Arises` — what is known from telling lines, with the nouns whose files were run.

## Main statements

* `Knowledge.load_eq_ok_iff` — to load is to run files.
* `Knowledge.Runs.once` — no file is run twice, or again.
* `Session.Reachable.runs_once` — no noun's file has been run twice for what a session knows.
-/

namespace Worldsmith

namespace Knowledge

/-- What is to be done when files are loaded: look for the files of kinds, or carry out lines. -/
inductive Errand where
  | lookFor (kinds : List (Id .kind))
  | tell (path : String) (lines : List String)

/-- What an errand comes to, with the nouns whose files are run for it, one after another. -/
inductive Runs (shelf : Shelf) : Errand → Knowledge → List String → Knowledge → Prop
  | done {known : Knowledge} : Runs shelf (.lookFor []) known [] known
  | already {known later : Knowledge} {kind : Id .kind} {rest : List (Id .kind)}
      {nouns : List String} (looked : known.world.kindName kind ∈ known.loaded)
      (others : Runs shelf (.lookFor rest) known nouns later) :
      Runs shelf (.lookFor (kind :: rest)) known nouns later
  | missing {known later : Knowledge} {kind : Id .kind} {rest : List (Id .kind)}
      {nouns : List String} {path : String} (fresh : known.world.kindName kind ∉ known.loaded)
      (absent : shelf.storage.read (shelf.settings.file (known.world.kindName kind)
        Settings.definitionExtension) = .error (.notFound path))
      (others : Runs shelf (.lookFor rest) (known.lookFor (known.world.kindName kind)) nouns
        later) :
      Runs shelf (.lookFor (kind :: rest)) known nouns later
  | file {known middle later : Knowledge} {kind : Id .kind} {rest : List (Id .kind)}
      {within nouns : List String} {text : String}
      (fresh : known.world.kindName kind ∉ known.loaded)
      (read : shelf.storage.read (shelf.settings.file (known.world.kindName kind)
        Settings.definitionExtension) = .ok text)
      (first : Runs shelf (.tell (shelf.settings.file (known.world.kindName kind)
        Settings.definitionExtension) (statementsIn text))
        (known.lookFor (known.world.kindName kind)) within middle)
      (others : Runs shelf (.lookFor rest) middle nouns later) :
      Runs shelf (.lookFor (kind :: rest)) known
        (known.world.kindName kind :: within ++ nouns) later
  | finished {known : Knowledge} {path : String} : Runs shelf (.tell path []) known [] known
  | line {known made middle later : Knowledge} {path line : String} {rest : List String}
      {reading : Reading} {declaration : Declaration} {kinds : List (Id .kind)}
      {within nouns : List String} (understood : known.world.understand line = .ok reading)
      (declares : reading.pattern.action = .declare declaration)
      (performed : known.perform shelf line reading declaration = .ok (kinds, made))
      (first : Runs shelf (.lookFor kinds) made within middle)
      (others : Runs shelf (.tell path rest) middle nouns later) :
      Runs shelf (.tell path (line :: rest)) known (within ++ nouns) later

variable {shelf : Shelf} {known middle later : Knowledge} {path line : String}
  {kinds : List (Id .kind)} {errand : Errand} {nouns : List String}

/-! ## To load is to run files -/

theorem exists_runs_of_define {load : Load}
    (loads : ∀ {kinds known later}, load kinds known = .ok later →
      ∃ nouns, Runs shelf (.lookFor kinds) known nouns later) {lines : List String}
    (made : lines.foldlM (define shelf load path) known = .ok later) :
    ∃ nouns, Runs shelf (.tell path lines) known nouns later := by
  induction lines generalizing known with
  | nil =>
    cases made
    exact ⟨[], .finished⟩
  | cons line rest ih =>
    obtain ⟨middle, defined, made⟩ := exists_of_bind_eq_ok made
    obtain ⟨nouns, others⟩ := ih made
    obtain ⟨reading, understood, defined⟩ := exists_of_bind_eq_ok defined
    split at defined
    · cases defined
    · rename_i declares
      obtain ⟨⟨kinds, after⟩, performed, loaded⟩ := exists_of_bind_eq_ok defined
      obtain ⟨within, first⟩ := loads loaded
      exact ⟨_, .line understood declares performed first others⟩

theorem exists_runs_of_loadBy {load : Load}
    (loads : ∀ {kinds known later}, load kinds known = .ok later →
      ∃ nouns, Runs shelf (.lookFor kinds) known nouns later)
    (made : loadBy shelf load kinds known = .ok later) :
    ∃ nouns, Runs shelf (.lookFor kinds) known nouns later := by
  induction kinds generalizing known with
  | nil =>
    cases made
    exact ⟨[], .done⟩
  | cons kind rest ih =>
    obtain ⟨middle, loaded, made⟩ := exists_of_bind_eq_ok made
    obtain ⟨nouns, others⟩ := ih made
    unfold loadKind at loaded
    dsimp only at loaded
    split at loaded
    · rename_i looked
      cases loaded
      exact ⟨nouns, .already (List.contains_iff_mem.mp looked) others⟩
    · rename_i fresh
      rw [List.contains_iff_mem] at fresh
      split at loaded
      · rename_i absent
        cases loaded
        exact ⟨nouns, .missing fresh absent others⟩
      · cases loaded
      · rename_i text read
        obtain ⟨within, first⟩ := exists_runs_of_define loads loaded
        exact ⟨_, .file fresh read first others⟩

/-- What is loaded is loaded by running files. If there were more to it, it would fail for want of
depth. -/
theorem exists_runs_of_load
    (made : load shelf (enoughLoads shelf.storage) kinds known = .ok later) :
    ∃ nouns, Runs shelf (.lookFor kinds) known nouns later := by
  have error : Error := .misuse .nothingImagined
  have runs (depth : ℕ) : ∀ {kinds known later},
      (loadBy shelf)^[depth] (fun _ _ => .error error) kinds known = .ok later →
        ∃ nouns, Runs shelf (.lookFor kinds) known nouns later := by
    induction depth with
    | zero => exact nofun
    | succ depth ih =>
      intro kinds known later made
      rw [Function.iterate_succ_apply'] at made
      exact exists_runs_of_loadBy ih made
  rw [← iterate_loadBy_eq (fun _ _ => .error error) (Nat.lt_succ_self _)] at made
  exact runs _ made

/-- What an errand comes to by a way of loading. -/
def Errand.run (shelf : Shelf) (load : Load) : Errand → Knowledge → Except Error Knowledge
  | .lookFor kinds, known => loadBy shelf load kinds known
  | .tell path lines, known => lines.foldlM (define shelf load path) known

theorem Errand.run_lookFor {load : Load} {kind : Id .kind} {rest : List (Id .kind)}
    (first : known.loadKind shelf load kind = .ok middle) :
    (lookFor (kind :: rest)).run shelf load known = (lookFor rest).run shelf load middle := by
  rw [Errand.run, loadBy, List.foldlM_cons, first]
  rfl

theorem Errand.run_tell {load : Load} {rest : List String}
    (first : known.define shelf load path line = .ok middle) :
    (tell path (line :: rest)).run shelf load known = (tell path rest).run shelf load middle := by
  rw [Errand.run, List.foldlM_cons, first]
  rfl

theorem Runs.exists_depth (runs : Runs shelf errand known nouns later) :
    ∃ depth, ∀ more, depth ≤ more → errand.run shelf (load shelf more) known = .ok later := by
  induction runs with
  | done => exact ⟨0, fun _ _ => rfl⟩
  | finished => exact ⟨0, fun _ _ => rfl⟩
  | already looked _ others =>
    obtain ⟨depth, others⟩ := others
    refine ⟨depth, fun more le => ?_⟩
    rw [Errand.run_lookFor (if_pos (List.contains_iff_mem.mpr looked)), others more le]
  | @missing known _ kind _ _ path fresh absent _ others =>
    obtain ⟨depth, others⟩ := others
    refine ⟨depth, fun more le => ?_⟩
    have looked : known.loadKind shelf (load shelf more) kind =
        .ok (known.lookFor (known.world.kindName kind)) := by
      rw [loadKind, if_neg (by simpa using fresh)]
      simp only [absent]
      rfl
    rw [Errand.run_lookFor looked, others more le]
  | @file known middle _ kind _ _ _ text fresh read _ _ first others =>
    obtain ⟨depth, first⟩ := first
    obtain ⟨depth', others⟩ := others
    refine ⟨max depth depth', fun more le => ?_⟩
    have ran : known.loadKind shelf (load shelf more) kind = .ok middle := by
      rw [loadKind, if_neg (by simpa using fresh)]
      simp only [read]
      exact first more (le_of_max_le_left le)
    rw [Errand.run_lookFor ran, others more (le_of_max_le_right le)]
  | @line known _ middle _ path line _ reading declaration kinds _ _ understood declares performed
      _ _ first others =>
    obtain ⟨depth, first⟩ := first
    obtain ⟨depth', others⟩ := others
    refine ⟨max (depth + 1) depth', fun more le => ?_⟩
    obtain ⟨fuel, rfl⟩ := Nat.exists_eq_add_of_le (le_of_max_le_left le)
    have defined : known.define shelf (load shelf (depth + 1 + fuel)) path line = .ok middle := by
      rw [define_eq, understood]
      simp only [declares, performed]
      rw [Nat.add_right_comm]
      exact first (depth + fuel) (Nat.le_add_right _ _)
    rw [Errand.run_tell defined, others _ (le_of_max_le_right le)]

/-- Loading comes to what running files comes to. -/
theorem load_eq_ok_iff : load shelf (enoughLoads shelf.storage) kinds known = .ok later ↔
    ∃ nouns, Runs shelf (.lookFor kinds) known nouns later := by
  refine ⟨exists_runs_of_load, fun ⟨nouns, runs⟩ => ?_⟩
  obtain ⟨depth, loads⟩ := runs.exists_depth
  have deep := Nat.le_succ_of_le (Nat.le_max_left (enoughLoads shelf.storage) depth)
  rw [← load_eq_enough deep]
  exact loads _ (Nat.le_max_right _ _)

/-! ## No file is run twice -/

/-- Whether nouns are told apart from each other and from those looked for before, and are among
those looked for afterwards. -/
structure Once (before nouns after : List String) : Prop where
  kept : before ⊆ after
  among : nouns ⊆ after
  fresh : nouns.Disjoint before
  nodup : nouns.Nodup

namespace Once

variable {before between after others : List String} {noun : String}

theorem nil (before : List String) : Once before [] before :=
  ⟨List.Subset.refl _, List.nil_subset _, List.disjoint_nil_left _, .nil⟩

theorem single (fresh : noun ∉ before) : Once before [noun] (before ++ [noun]) :=
  ⟨List.subset_append_left _ _, List.subset_append_right _ _, List.singleton_disjoint.mpr fresh,
    List.nodup_singleton _⟩

theorem append (first : Once before nouns between) (second : Once between others after) :
    Once before (nouns ++ others) after where
  kept := List.Subset.trans first.kept second.kept
  among := List.append_subset.mpr ⟨List.Subset.trans first.among second.kept, second.among⟩
  fresh := List.disjoint_append_left.mpr
    ⟨first.fresh, List.disjoint_of_subset_right first.kept second.fresh⟩
  nodup := first.nodup.append second.nodup
    (List.disjoint_of_subset_left first.among second.fresh.symm)

theorem of_subset (sub : before ⊆ between) (second : Once between nouns after) :
    Once before nouns after :=
  ⟨List.Subset.trans sub second.kept, second.among,
    List.disjoint_of_subset_right sub second.fresh, second.nodup⟩

end Once

/-- What is run has not been looked for before, has been looked for afterwards, and is not run
twice: the noun of a file has been looked for before its lines are carried out. -/
theorem Runs.once (runs : Runs shelf errand known nouns later) :
    Once known.loaded nouns later.loaded := by
  induction runs with
  | done => exact .nil _
  | finished => exact .nil _
  | already _ _ others => exact others
  | missing _ _ _ others => exact .of_subset (List.subset_append_left _ _) others
  | file fresh _ _ _ first others => exact ((Once.single fresh).append first).append others
  | line _ _ performed _ _ first others =>
    rw [loaded_of_perform performed] at first
    exact first.append others

/-! ## What is known from telling lines -/

/-- Whether a line is a declaration that knowledge takes in, what it comes to, and the nouns whose
files are run for it. -/
def RunsFor (shelf : Shelf) (known : Knowledge) (line : String) (nouns : List String)
    (later : Knowledge) : Prop :=
  ∃ reading declaration kinds made, known.world.understand line = .ok reading ∧
    reading.pattern.action = .declare declaration ∧
    known.perform shelf line reading declaration = .ok (kinds, made) ∧
    Runs shelf (.lookFor kinds) made nouns later

/-- Whether knowledge is what telling some lines leads to, one after another and from nothing,
whatever files there were for each of them, with the nouns whose files were run. -/
inductive Arises : Knowledge → List String → List String → Prop
  | nothing : Arises .empty [] []
  | line {known later : Knowledge} {lines nouns more : List String} {line : String} {shelf : Shelf}
      (before : Arises known lines nouns) (learns : known.Learns shelf line later)
      (runs : known.RunsFor shelf line more later) : Arises later (lines ++ [line]) (nouns ++ more)

theorem Learns.exists_runsFor (learns : known.Learns shelf line later) :
    ∃ nouns, known.RunsFor shelf line nouns later := by
  obtain ⟨reading, declaration, understood, declares, stated⟩ := learns.stated
  obtain ⟨⟨kinds, made⟩, performed, loaded⟩ := exists_of_bind_eq_ok stated
  obtain ⟨nouns, runs⟩ := exists_runs_of_load loaded
  exact ⟨nouns, reading, declaration, kinds, made, understood, declares, performed, runs⟩

theorem RunsFor.once (runs : known.RunsFor shelf line nouns later) :
    Once known.loaded nouns later.loaded := by
  obtain ⟨_, _, _, _, _, _, performed, runs⟩ := runs
  exact loaded_of_perform performed ▸ runs.once

theorem Arises.once {lines : List String} (arises : known.Arises lines nouns) :
    Once [] nouns known.loaded := by
  induction arises with
  | nothing => exact .nil []
  | line _ _ runs before => exact before.append runs.once

end Knowledge

/-! ## Sessions -/

namespace Turn

theorem snd_take_discard {α : Type} (turn : Turn α) (session : Session) :
    ((discard turn).take session).2 = (turn.take session).2 := by
  change ((turn >>= fun _ => pure ()).take session).2 = _
  rw [take_bind]
  generalize turn.take session = taken
  obtain ⟨outcome, later⟩ := taken
  cases outcome <;> rfl

end Turn

namespace Session

variable {session : Session} {line : String}

/-- Whether all that a session knows has come from telling the lines of its transcript. -/
def HasArisen (session : Session) : Prop :=
  ∃ nouns, session.knowledge.Arises session.transcript nouns

theorem hasArisen_reset (session : Session) : session.reset.HasArisen := ⟨[], .nothing⟩

theorem HasArisen.of_told_eq {later : Session} (arisen : session.HasArisen)
    (same : later.told = session.told) : later.HasArisen := by
  obtain ⟨knowledge, transcript⟩ := Prod.mk.inj same
  rwa [HasArisen, knowledge, transcript]

theorem HasArisen.accept (arisen : session.HasArisen) {later : Knowledge}
    (learns : session.knowledge.Learns session.shelf line later) :
    (session.accept line later).HasArisen := by
  obtain ⟨nouns, arises⟩ := arisen
  obtain ⟨more, runs⟩ := learns.exists_runsFor
  exact ⟨nouns ++ more, .line arises learns runs⟩

theorem HasArisen.executeBy (arisen : session.HasArisen) {undo : Turn (Option String)}
    (undone : (undo.take session).2.HasArisen) (line : String) :
    ((Turn.executeBy undo line).take session).2.HasArisen := by
  generalize taken : (Turn.executeBy undo line).take session = result
  obtain ⟨outcome, after⟩ := result
  obtain same | rfl | rfl | ⟨later, learns, rfl⟩ := executeBy_cases taken
  · exact arisen.of_told_eq same
  · exact undone
  · exact hasArisen_reset session
  · exact arisen.accept learns

theorem HasArisen.replay (arisen : session.HasArisen) (lines : List String) :
    ((Turn.replay lines).take session).2.HasArisen := by
  induction lines generalizing session with
  | nil => exact arisen
  | cons line rest ih =>
    have told : ((discard (Turn.executeBy (pure none) line)).take session).2.HasArisen := by
      rw [Turn.snd_take_discard]
      have undone : ((pure none : Turn (Option String)).take session).2.HasArisen := arisen
      exact arisen.executeBy undone line
    change ((discard (Turn.executeBy (pure none) line) >>= fun _ => Turn.replay rest).take
      session).2.HasArisen
    rw [Turn.take_bind]
    generalize (discard (Turn.executeBy (pure none) line)).take session = taken at told ⊢
    obtain ⟨outcome, later⟩ := taken
    cases outcome with
    | ok done => exact ih told
    | error => exact told

/-- To undo is to start over and tell the other lines again, or to be back where one was. -/
theorem HasArisen.undo (arisen : session.HasArisen) :
    (Turn.undo.take session).2.HasArisen := by
  rw [Turn.take_undo]
  cases session.transcript.getLast? with
  | none => exact arisen
  | some undone =>
    have replayed := (hasArisen_reset session).replay session.transcript.dropLast
    dsimp only
    generalize (Turn.replay session.transcript.dropLast).take session.reset = taken at replayed ⊢
    obtain ⟨outcome, later⟩ := taken
    cases outcome with
    | ok done => exact replayed
    | error => exact arisen.of_told_eq rfl

theorem HasArisen.after (arisen : session.HasArisen) (move : Move) :
    (session.after move).HasArisen := by
  cases move with
  | line line => exact arisen.executeBy arisen.undo line
  | undo => exact arisen.undo
  | reset => exact hasArisen_reset session
  | imagine request => exact arisen.of_told_eq (Turn.retains_imagine request session)
  | test => exact arisen.of_told_eq rfl
  | stats => exact arisen.of_told_eq (Turn.retains_stats session)
  | save name => exact arisen.of_told_eq (Turn.retains_save name session)
  | elsewhere storage => exact arisen.of_told_eq rfl

theorem Reachable.hasArisen (reachable : session.Reachable) : session.HasArisen := by
  induction reachable with
  | start settings seed storage => exact ⟨[], .nothing⟩
  | move session move _ _ before => exact before.after move

/-- Whatever has been done with a session and with files, loading ends: it comes to a function of
what is known that never depends on what would be loaded deeper than it is allowed to. All that the
session knows has come from telling the lines of its transcript, and among the files that were run
for those, since it last started over, there are no two for the same noun. -/
theorem Reachable.runs_once (reachable : session.Reachable) :
    (∀ fuel kinds known, (Turn.load fuel kinds).Comes (session.knowing known)
      (Knowledge.load session.shelf fuel kinds known)) ∧
    (∀ beyond kinds known depth, Knowledge.enoughLoads session.shelf.storage < depth →
      (Knowledge.loadBy session.shelf)^[depth] beyond kinds known =
        Knowledge.load session.shelf (Knowledge.enoughLoads session.shelf.storage) kinds known) ∧
    (∃ nouns, session.knowledge.Arises session.transcript nouns) ∧
    ∀ nouns, session.knowledge.Arises session.transcript nouns →
      nouns.Nodup ∧ nouns ⊆ session.knowledge.loaded :=
  ⟨Turn.comes_load,
    fun beyond kinds known _ deep => Knowledge.iterate_loadBy_eq beyond deep kinds known,
    reachable.hasArisen, fun _ arises => ⟨arises.once.nodup, arises.once.among⟩⟩

/-- A session with files that speak of each other's nouns. -/
def roundabout : Session :=
  start .default 0 ⟨[(["cat.gen"], .file "a dog is a kind of pet".toUTF8),
    (["dog.gen"], .file "a cat is a kind of pet\na pet is a kind of animal".toUTF8)], .nothing⟩

/-- The same session, told something that has the files run. -/
def afterCats : Session := roundabout.after (.line "a cat is a kind of animal")

theorem loaded_afterCats : afterCats.transcript = ["a cat is a kind of animal"] ∧
    afterCats.knowledge.loaded = ["cat", "dog", "pet", "animal"] := by
  decide +kernel

/-- Going round ends, and neither file has been run twice. -/
theorem runs_once_afterCats : afterCats.Reachable ∧
    (∀ kinds known, (Turn.load (Knowledge.enoughLoads afterCats.shelf.storage) kinds).Comes
      (afterCats.knowing known) (Knowledge.load afterCats.shelf
        (Knowledge.enoughLoads afterCats.shelf.storage) kinds known)) ∧
    (∀ beyond kinds known, (Knowledge.loadBy afterCats.shelf)^[
        Knowledge.enoughLoads afterCats.shelf.storage + 1] beyond kinds known =
      Knowledge.load afterCats.shelf (Knowledge.enoughLoads afterCats.shelf.storage)
        kinds known) ∧
    (∃ nouns, afterCats.knowledge.Arises ["a cat is a kind of animal"] nouns) ∧
    ∀ nouns, afterCats.knowledge.Arises ["a cat is a kind of animal"] nouns →
      nouns.Nodup ∧ nouns ⊆ ["cat", "dog", "pet", "animal"] := by
  have reachable : afterCats.Reachable :=
    .move roundabout (.line "a cat is a kind of animal") (.start _ _ _) trivial
  obtain ⟨told, loaded⟩ := loaded_afterCats
  obtain ⟨comes, ends, arisen, once⟩ := reachable.runs_once
  rw [told] at arisen once
  rw [loaded] at once
  exact ⟨reachable, comes _,
    fun beyond kinds known => ends beyond kinds known _ (Nat.lt_succ_self _), arisen, once⟩

end Session

end Worldsmith
