import Worldsmith.Proofs.Session.History

/-!
# Saving and running again

A session that has been saved is told its transcript again by running the saved file. Lines without
line breaks, and without white space at their ends, are cut from the file as they were put into it.
Each of them leads on as it did at first, for the definition files that have been looked for are
still what they were, unless one of them has been written over.

## Main definitions

* `Shelf.Consults` — looking for the definition files of some nouns is to look at a file.
* `Session.Steady` — a session that lines without line breaks lead to, while files stay as they are.

## Main statements

* `Text.lines_intercalate` — lines that have been put together are cut apart again.
* `Shelf.serves_of_write` — a definition file that nobody has looked for can be written.
* `Session.Steady.runFile_save` — a saved file leads a new session to what was known.
-/

namespace Worldsmith

/-! ## Lines -/

namespace Text

theorem linesWithEnds_append {line : List Char} (unbroken : '\n' ∉ line) (rest : List Char) :
    linesWithEnds (line ++ '\n' :: rest) = (line ++ ['\n']) :: linesWithEnds rest := by
  induction line with
  | nil => simp [linesWithEnds]
  | cons c line ih =>
    obtain ⟨other, unbroken⟩ := List.ne_and_not_mem_of_not_mem_cons unbroken
    simp [linesWithEnds, other.symm, ih unbroken, extendFirst]

theorem dropLineEnd_concat {line : List Char} (bare : line.getLast? ≠ some '\r') :
    dropLineEnd (line ++ ['\n']) = line := by
  have ends : (line ++ ['\n']).reverse = '\n' :: line.reverse := List.reverse_concat
  rw [← List.head?_reverse] at bare
  unfold dropLineEnd
  rw [ends]
  split
  · rename_i rest same
    rw [(List.cons.inj same).2] at bare
    exact absurd rfl bare
  · rename_i rest _ same
    rw [← (List.cons.inj same).2, List.reverse_reverse]
  · rename_i other
    exact absurd rfl (other _)

/-- There is no white space at the end of a line that has been trimmed. -/
theorem getLast?_ne_of_trim_eq {line : String} (trimmed : trim line = line) {c : Char}
    (blank : isBlank c = true) : line.toList.getLast? ≠ some c := by
  intro last
  have cut : (line.toList.dropWhile isBlank).rdropWhile isBlank = line.toList := by
    simpa [trim, List.rdropWhile] using congrArg String.toList trimmed
  rw [← cut] at last
  have some : (line.toList.dropWhile isBlank).rdropWhile isBlank ≠ [] := by
    intro none
    simp [none] at last
  rw [List.getLast?_eq_some_getLast some] at last
  exact List.rdropWhile_last_not _ _ some (Option.some.inj last ▸ blank)

theorem mem_of_mem_trim {line : String} {c : Char} (mem : c ∈ (trim line).toList) :
    c ∈ line.toList := by
  rw [trim, String.toList_ofList, List.mem_reverse] at mem
  have := (List.dropWhile_sublist _).mem mem
  exact (List.dropWhile_sublist _).mem (List.mem_reverse.mp this)

/-- Whether a line can be told from its neighbours: it has no line break, and no white space at its
ends. -/
structure IsLine (line : String) : Prop where
  unbroken : '\n' ∉ line.toList
  trimmed : trim line = line

theorem lines_append {line : String} (isLine : IsLine line) (rest : String) :
    lines (line ++ "\n" ++ rest) = line :: lines rest := by
  have bare : line.toList.getLast? ≠ some '\r' := getLast?_ne_of_trim_eq isLine.trimmed (by decide)
  have cut : (line ++ "\n" ++ rest).toList = line.toList ++ '\n' :: rest.toList := by simp
  rw [lines, cut, linesWithEnds_append isLine.unbroken, List.map_cons, dropLineEnd_concat bare,
    String.ofList_toList]
  rfl

/-- Lines that have been put together are cut apart again. -/
theorem lines_intercalate {line : String} {rest : List String}
    (isLine : ∀ l ∈ line :: rest, IsLine l) :
    lines ("\n".intercalate (line :: rest) ++ "\n") = line :: rest := by
  induction rest generalizing line with
  | nil => simpa [lines, linesWithEnds] using lines_append (isLine line List.mem_cons_self) ""
  | cons next rest ih =>
    obtain ⟨first, others⟩ := List.forall_mem_cons.mp isLine
    rw [String.intercalate_cons_of_ne_nil (List.cons_ne_nil _ _), String.append_assoc,
      lines_append first, ih others]

end Text

/-! ## Shelves -/

/-- Whether looking for the definition files of some nouns is to look at the place of a file. -/
def Shelf.Consults (nouns : List String) (shelf : Shelf) (file : String) : Prop :=
  ∃ noun ∈ nouns,
    shelf.storage.Consults (shelf.settings.file noun Settings.definitionExtension) file

instance (nouns : List String) (shelf : Shelf) (file : String) :
    Decidable (shelf.Consults nouns file) :=
  inferInstanceAs (Decidable (∃ noun ∈ nouns,
    shelf.storage.Consults (shelf.settings.file noun Settings.definitionExtension) file))

/-- A definition file that nobody has looked for can be written. -/
theorem Shelf.serves_of_write {shelf : Shelf} {nouns : List String} {name : String}
    {content : ByteArray} {storage : Storage}
    (written : shelf.storage.write (shelf.settings.file name Settings.definitionExtension) content =
      .ok storage)
    (apart : ¬ shelf.Consults nouns (shelf.settings.file name Settings.definitionExtension)) :
    shelf.Serves nouns { shelf with storage := storage } where
  settings := rfl
  definition noun mem := Storage.read_eq_of_write written fun looks => apart ⟨noun, mem, looks⟩
  menu _ _ offers := Storage.menu_of_write written offers

/-! ## Telling all lines again -/

theorem Knowledge.ComesOf.trimmed {shelf : Shelf} {known : Knowledge} {lines : List String}
    (comes : known.ComesOf shelf lines) : ∀ line ∈ lines, Text.trim line = line := by
  induction comes with
  | nothing => simp
  | line before learns ih =>
    intro line mem
    obtain mem | mem := List.mem_append.mp mem
    · exact ih line mem
    · exact List.mem_singleton.mp mem ▸ learns.trimmed

theorem Knowledge.ComesOf.eq_empty {shelf : Shelf} {known : Knowledge}
    (comes : known.ComesOf shelf []) : known = .empty := by
  generalize none : [] = lines at comes
  cases comes with
  | nothing => rfl
  | line before learns => simp at none

namespace Turn

variable {session later : Session} {known : Knowledge} {lines : List String} {name path : String}

/-- To execute lines that lead to some knowledge is to come to know it, and nothing is shown. -/
theorem take_mapM_execute (comes : known.ComesOf session.shelf lines) :
    (lines.mapM execute).take session.reset = (.ok (List.replicate lines.length .accepted),
      { session.reset with knowledge := known, transcript := lines }) := by
  induction comes with
  | nothing => rfl
  | @line known later lines line before learns ih =>
    let middle : Session := { session.reset with knowledge := known, transcript := lines }
    have last : (execute line).take middle = (.ok .accepted, middle.accept line later) :=
      take_executeBy_of_learns undo learns
    rw [List.mapM_append, take_bind, ih]
    dsimp only
    rw [take_bind, List.mapM_cons, take_bind, last, List.length_append, List.replicate_add]
    rfl

/-- Lines that have been put together lead to what they led to. A file of none is a blank line. -/
theorem take_mapM_execute_lines (comes : known.ComesOf session.shelf lines)
    (isLine : ∀ line ∈ lines, Text.IsLine line) : ∃ n,
      ((Text.lines ("\n".intercalate lines ++ "\n")).mapM execute).take session.reset =
        (.ok (List.replicate n .accepted),
          { session.reset with knowledge := known, transcript := lines }) := by
  cases lines with
  | nil =>
    rw [comes.eq_empty]
    exact ⟨1, rfl⟩
  | cons line rest =>
    rw [Text.lines_intercalate isLine]
    exact ⟨_, take_mapM_execute comes⟩

/-- To save is to write the transcript, one line after another. -/
theorem exists_of_save (saved : (save name).take session = (.ok path, later)) :
    path = session.shelf.settings.file name Settings.definitionExtension ∧
    ∃ storage, session.shelf.storage.write path
        ("\n".intercalate session.transcript ++ "\n").toUTF8 = .ok storage ∧
      later = session.withStorage storage := by
  rw [save, take_bind, take_get] at saved
  dsimp only at saved
  split at saved
  · cases saved
  · rename_i storage written
    cases saved
    exact ⟨rfl, storage, written, rfl⟩

/-- To run a file is to execute its lines. -/
theorem take_runFile {text : String} (read : session.shelf.storage.read path = .ok text) :
    (runFile path).take session = ((Text.lines text).mapM execute).take session := by
  rw [runFile, take_bind, take_get]
  dsimp only
  rw [read]

end Turn

/-! ## Sessions -/

/-- Whether a move executes no line with a line break in it. -/
def Move.IsUnbroken : Move → Prop
  | .line said => '\n' ∉ said.toList
  | _ => True

namespace Session

variable {session later : Session} {line : String}

/-- Whether a session can be got from a new one by lines without line breaks, while menus, and the
definition files that have been looked for, can be read as before. -/
inductive Steady : Session → Prop
  | start (settings : Settings) (seed : Nat) (storage : Storage) :
      Steady (start settings seed storage)
  | move (session : Session) (move : Move) (before : Steady session) (unbroken : move.IsUnbroken)
      (kept : session.shelf.Serves session.knowledge.loaded (session.after move).shelf) :
      Steady (session.after move)

theorem IsRecorded.transcript_undo (recorded : session.IsRecorded) :
    (Turn.undo.take session).2.transcript = session.transcript.dropLast := by
  rcases recorded.eq_accept with none | ⟨before, line, later, rfl, comes⟩
  · rw [Turn.take_undo, none]
    simp [none]
  · rw [Turn.take_undo_accept comes]
    simp [Session.accept]

/-- Only lines that are executed get into a transcript. -/
theorem IsRecorded.mem_transcript_after (recorded : session.IsRecorded) (move : Move)
    (mem : line ∈ (session.after move).transcript) :
    line ∈ session.transcript ∨ ∃ said, move = .line said ∧ line = Text.trim said := by
  have kept (same : (session.after move).told = session.told) : line ∈ session.transcript := by
    have transcript : (session.after move).transcript = session.transcript := congrArg Prod.snd same
    exact transcript ▸ mem
  have undone (mem : line ∈ (Turn.undo.take session).2.transcript) : line ∈ session.transcript := by
    rw [recorded.transcript_undo] at mem
    exact List.mem_of_mem_dropLast mem
  cases move with
  | line said =>
    rw [Session.after] at kept mem
    generalize taken : (Turn.execute said).take session = result at kept mem
    obtain ⟨outcome, later⟩ := result
    obtain same | rfl | rfl | ⟨known, learns, rfl⟩ := execute_cases taken
    · exact .inl (kept same)
    · exact .inl (undone mem)
    · cases mem
    · obtain mem | mem := List.mem_append.mp mem
      · exact .inl mem
      · exact .inr ⟨said, rfl, List.mem_singleton.mp mem⟩
  | undo => exact .inl (undone mem)
  | reset => cases mem
  | imagine request => exact .inl (kept (Turn.retains_imagine request session))
  | test => exact .inl (kept rfl)
  | stats => exact .inl (kept (Turn.retains_stats session))
  | save name => exact .inl (kept (Turn.retains_save name session))
  | elsewhere storage => exact .inl (kept rfl)

theorem Steady.isRecorded (steady : session.Steady) : session.IsRecorded := by
  induction steady with
  | start settings seed storage => exact .nothing
  | move session move _ _ kept before => exact before.after move kept

/-- A transcript is cut into its lines wherever it is written. -/
theorem Steady.isLine (steady : session.Steady) :
    ∀ line ∈ session.transcript, Text.IsLine line := by
  have unbroken : ∀ line ∈ session.transcript, '\n' ∉ line.toList := by
    induction steady with
    | start settings seed storage => simp [Session.start]
    | move session move steady unbroken _ ih =>
      intro line mem
      obtain mem | ⟨said, rfl, rfl⟩ := steady.isRecorded.mem_transcript_after move mem
      · exact ih line mem
      · exact fun broken => unbroken (Text.mem_of_mem_trim broken)
  intro line mem
  exact ⟨unbroken line mem, Knowledge.ComesOf.trimmed steady.isRecorded line mem⟩

/-- A saved file leads a new session to what was known, line by line, if its place is not looked at
for a definition file. -/
theorem Steady.runFile_save (steady : session.Steady) {name path : String}
    (saved : (Turn.save name).take session = (.ok path, later))
    (apart : ¬ session.shelf.Consults session.knowledge.loaded path) (seed : Nat) :
    ∃ replies,
      (Turn.runFile path).take (Session.start later.shelf.settings seed later.shelf.storage) =
        (.ok replies, { Session.start later.shelf.settings seed later.shelf.storage with
          knowledge := session.knowledge
          transcript := session.transcript }) ∧
      ∀ reply ∈ replies, reply = .accepted := by
  obtain ⟨rfl, storage, written, rfl⟩ := Turn.exists_of_save saved
  let fresh : Session := .start session.shelf.settings seed storage
  have read := Storage.read_of_write written
  have comes : session.knowledge.ComesOf fresh.shelf session.transcript :=
    steady.isRecorded.of_serves (Shelf.serves_of_write written apart)
  obtain ⟨n, told⟩ := Turn.take_mapM_execute_lines comes steady.isLine
  have runs : (Turn.runFile _).take fresh = _ := Turn.take_runFile read
  exact ⟨_, runs.trans told, by simp⟩

theorem Steady.declare (steady : session.Steady) {declaration : Declaration}
    (declares : session.declares? line = some declaration) (unbroken : '\n' ∉ line.toList) :
    (session.after (.line line)).Steady :=
  .move session (.line line) steady unbroken (shelf_of_declares? declares ▸ .refl _ _)

theorem saves_withCats : withCats.transcript = ["a cat is a kind of animal"] ∧
    withCats.world.adjectives.size = 1 ∧
    ((Turn.save "zoo").take withCats).1.toOption = some "./zoo.gen" ∧
    withCats.shelf.Consults withCats.knowledge.loaded "./cat.gen" ∧
    ¬ withCats.shelf.Consults withCats.knowledge.loaded "./zoo.gen" := by
  decide +kernel

/-- Cats that are fuzzy by a file of their own are so again, though nothing that has been saved says
it. -/
theorem runFile_save_zoo : withCats.transcript = ["a cat is a kind of animal"] ∧
    withCats.world.adjectives.size = 1 ∧
    withCats.shelf.Consults withCats.knowledge.loaded "./cat.gen" ∧
    ¬ withCats.shelf.Consults withCats.knowledge.loaded "./zoo.gen" ∧
    ∃ later replies, (Turn.save "zoo").take withCats = (.ok "./zoo.gen", later) ∧
      (Turn.runFile "./zoo.gen").take
          (Session.start later.shelf.settings 1 later.shelf.storage) =
        (.ok replies, { Session.start later.shelf.settings 1 later.shelf.storage with
          knowledge := withCats.knowledge
          transcript := withCats.transcript }) := by
  obtain ⟨told, fuzzy, path, looks, apart⟩ := saves_withCats
  have cats : beforeCats.declares? "a cat is a kind of animal" = some .subkind :=
    declares?_withCats.1
  have steady : withCats.Steady := Steady.declare (.start _ _ _) cats (by decide)
  cases taken : (Turn.save "zoo").take withCats with
  | mk outcome later =>
    rw [taken] at path
    cases outcome with
    | error error => cases path
    | ok path' =>
      cases path
      obtain ⟨replies, runs, -⟩ := steady.runFile_save taken apart 1
      exact ⟨told, fuzzy, looks, apart, later, replies, rfl, runs⟩

end Session

end Worldsmith
