import Mathlib.Tactic.Common
import Worldsmith.Proofs.Lists
import Worldsmith.Session.Storage

/-!
# Reading what has been written

On the way to a file some places are looked at, all of them folders but the last. To write a file is
to change one place that is no folder. So the file is read as it was written, no way to another file
is lost, and whatever is read without a look at that place is read as before.

## Main definitions

* `Storage.consulted` — the places that are looked at to read a file.
* `Storage.Consults` — to read a file is to look at another.

## Main statements

* `Storage.read_of_write` — a text that has been written is read again.
* `Storage.read_eq_of_write` — files are read as before if what has been written is not looked at.
* `Storage.menu_of_write` — menus can be read as before if a definition file has been written.
-/

namespace Worldsmith

namespace Storage

variable {storage other later : Storage} {place route : Route} {path file : String}
  {way : List String} {content : ByteArray} {text : String}

/-! ## Ways -/

/-- Where a step leads to from a folder, unless its name is too long. -/
def advance (place : Route) (step : String) : Option Route :=
  if step.isEmpty || step = "." then some place
  else if step = upStep then some (above place)
  else if maxNameSize < step.utf8ByteSize then none
  else some (place ++ [step])

theorem walk_cons (storage : Storage) (place : Route) (step : String) (rest : List String) :
    storage.walk place (step :: rest) =
      match storage.item place with
      | .nothing => .error .missing
      | .file _ | .barred => .error .barred
      | .folder =>
        match advance place step with
        | none => .error .barred
        | some next => storage.walk next rest := by
  rw [walk, advance]
  cases storage.item place with
  | folder => dsimp only; split_ifs <;> rfl
  | file | nothing | barred => rfl

theorem walk_cons_eq_ok {step : String} {rest : List String} :
    storage.walk place (step :: rest) = .ok route ↔ storage.item place = .folder ∧
      ∃ next, advance place step = some next ∧ storage.walk next rest = .ok route := by
  rw [walk_cons]
  cases storage.item place with
  | folder => cases advance place step <;> simp
  | file | nothing | barred => simp

/-- The places that are looked at along the steps of a path. -/
def visited (storage : Storage) (place : Route) : List String → List Route
  | [] => [place]
  | step :: rest => place ::
    if (storage.item place).isFolder then
      match advance place step with
      | none => []
      | some next => storage.visited next rest
    else []

theorem mem_visited_self (storage : Storage) (place : Route) (way : List String) :
    place ∈ storage.visited place way := by
  cases way <;> exact List.mem_cons_self

/-- Whoever sees the same on the way goes the same way. -/
theorem walk_congr (same : ∀ p ∈ storage.visited place way, other.item p = storage.item p) :
    other.walk place way = storage.walk place way := by
  induction way generalizing place with
  | nil => rfl
  | cons step rest ih =>
    have here := same place (mem_visited_self storage place _)
    rw [walk_cons, walk_cons, here]
    cases seen : storage.item place with
    | folder =>
      dsimp only
      cases next : advance place step with
      | none => rfl
      | some next' =>
        refine ih fun p mem => same p ?_
        simp [visited, seen, StorageItem.isFolder, next, mem]
    | file | nothing | barred => rfl

theorem end_mem_visited (walked : storage.walk place way = .ok route) :
    route ∈ storage.visited place way := by
  induction way generalizing place with
  | nil =>
    cases walked
    exact List.mem_cons_self
  | cons step rest ih =>
    obtain ⟨seen, next, leads, walked⟩ := walk_cons_eq_ok.mp walked
    simp [visited, seen, StorageItem.isFolder, leads, ih walked]

/-- A way that leads somewhere still leads there if there are no fewer folders. -/
theorem walk_of_folders (folders : ∀ p, storage.item p = .folder → other.item p = .folder)
    (walked : storage.walk place way = .ok route) : other.walk place way = .ok route := by
  induction way generalizing place with
  | nil => exact walked
  | cons step rest ih =>
    obtain ⟨seen, next, leads, walked⟩ := walk_cons_eq_ok.mp walked
    exact walk_cons_eq_ok.mpr ⟨folders place seen, next, leads, ih walked⟩

/-- The places that are looked at to read a file. -/
def consulted (storage : Storage) (path : String) : List Route :=
  if path.toList.contains terminator || path.isEmpty || maxPathSize ≤ path.utf8ByteSize then []
  else storage.visited (origin path) (steps path)

/-- Whether to read a file is to look at the place of another. -/
def Consults (storage : Storage) (path file : String) : Prop :=
  ∃ place ∈ storage.consulted path, storage.locate file = .ok place

instance (storage : Storage) (path file : String) : Decidable (storage.Consults path file) :=
  inferInstanceAs (Decidable (∃ place ∈ storage.consulted path, storage.locate file = .ok place))

/-- A path is no path anywhere, or is walked along. -/
theorem locate_cases (path : String) :
    (∃ failure, ∀ storage : Storage, storage.locate path = .error failure) ∨
      ∀ storage : Storage, storage.locate path = storage.walk (origin path) (steps path) ∧
        storage.consulted path = storage.visited (origin path) (steps path) := by
  unfold locate
  split_ifs with ended empty long
  · exact .inl ⟨_, fun _ => rfl⟩
  · exact .inl ⟨_, fun _ => rfl⟩
  · exact .inl ⟨_, fun _ => rfl⟩
  · refine .inr fun storage => ⟨rfl, if_neg ?_⟩
    simp only [Bool.or_eq_true, decide_eq_true_eq, not_or]
    exact ⟨⟨ended, empty⟩, long⟩

theorem locate_congr (same : ∀ p ∈ storage.consulted path, other.item p = storage.item p) :
    other.locate path = storage.locate path := by
  obtain ⟨failure, fails⟩ | walks := locate_cases path
  · rw [fails, fails]
  · rw [(walks storage).2] at same
    rw [(walks other).1, (walks storage).1, walk_congr same]

theorem mem_consulted (located : storage.locate path = .ok route) :
    route ∈ storage.consulted path := by
  obtain ⟨failure, fails⟩ | walks := locate_cases path
  · simp [fails] at located
  · rw [(walks storage).1] at located
    rw [(walks storage).2]
    exact end_mem_visited located

theorem locate_of_folders (folders : ∀ p, storage.item p = .folder → other.item p = .folder)
    (located : storage.locate path = .ok route) : other.locate path = .ok route := by
  obtain ⟨failure, fails⟩ | walks := locate_cases path
  · simp [fails] at located
  · rw [(walks storage).1] at located
    rw [(walks other).1]
    exact walk_of_folders folders located

/-- What comes of reading a file. -/
theorem read_eq (storage : Storage) (path : String) : storage.read path =
    match storage.locate path with
    | .error failure => .error (failure.error path)
    | .ok place =>
      match storage.item place with
      | .file content =>
        match String.fromUTF8? content with
        | some text => .ok text
        | none => .error (.unreadable path)
      | .nothing => .error (.notFound path)
      | .folder | .barred => .error (.unreadable path) := by
  unfold read Storage.content
  cases storage.locate path with
  | error failure => rfl
  | ok place =>
    dsimp only [bind, Except.bind]
    cases storage.item place with
    | file content =>
      dsimp only [pure, Except.pure, Except.mapError]
      cases String.fromUTF8? content <;> rfl
    | folder | nothing | barred => rfl

/-- A file is read as before if nothing that is looked at has changed. -/
theorem read_congr (same : ∀ p ∈ storage.consulted path, other.item p = storage.item p) :
    other.read path = storage.read path := by
  rw [read_eq, read_eq, locate_congr same]
  cases located : storage.locate path with
  | error failure => rfl
  | ok place => dsimp only; rw [same place (mem_consulted located)]

/-- What can be read is a file, and text. -/
theorem read_eq_ok : storage.read path = .ok text ↔ ∃ place content,
    storage.locate path = .ok place ∧ storage.item place = .file content ∧
      String.fromUTF8? content = some text := by
  rw [read_eq]
  cases storage.locate path with
  | error failure => simp
  | ok place =>
    cases seen : storage.item place with
    | file content => cases decoded : String.fromUTF8? content <;> simp [seen, decoded]
    | folder | nothing | barred => simp [seen]

/-! ## Writing -/

theorem item_put_self (ground : storage.item route ≠ .folder) (new : StorageItem) :
    (storage.put route new).item route = new := by
  unfold item at ground ⊢
  split_ifs at ground ⊢ with above
  · exact absurd rfl ground
  · simp [put]

theorem item_put_of_ne (ne : place ≠ route) (new : StorageItem) :
    (storage.put route new).item place = storage.item place := by
  have others (items : List (Route × StorageItem)) :
      (items.filter (·.1 != route)).lookup place = items.lookup place := by
    induction items with
    | nil => rfl
    | cons entry rest ih => grind
  have apart : (place == route) = false := by simpa using ne
  simp only [item, put, List.lookup_cons, apart, others]

/-- To write is to change one place that is no folder. -/
theorem exists_of_write (written : storage.write path content = .ok later) :
    ∃ route, storage.locate path = .ok route ∧ storage.item route ≠ .folder ∧
      later = storage.put route (.file content) := by
  unfold write at written
  split at written
  · cases written
  · rename_i route located
    refine ⟨route, located, ?_⟩
    cases seen : storage.item route <;> simp_all

theorem folder_put (ground : storage.item route ≠ .folder) (new : StorageItem)
    (folder : storage.item place = .folder) : (storage.put route new).item place = .folder := by
  rw [item_put_of_ne, folder]
  rintro rfl
  exact ground folder

/-- A text that has been written is read again. -/
theorem read_of_write (written : storage.write path text.toUTF8 = .ok later) :
    later.read path = .ok text := by
  obtain ⟨route, located, ground, rfl⟩ := exists_of_write written
  have found := locate_of_folders (fun _ => folder_put ground (.file text.toUTF8)) located
  exact read_eq_ok.mpr ⟨route, text.toUTF8, found, item_put_self ground _, dif_pos text.isValidUTF8⟩

/-- A file is read as before if what has been written is not looked at. -/
theorem read_eq_of_write (written : storage.write file content = .ok later)
    (apart : ¬ storage.Consults path file) : later.read path = storage.read path := by
  obtain ⟨route, located, -, rfl⟩ := exists_of_write written
  refine read_congr fun place mem => item_put_of_ne (fun same => ?_) _
  exact apart ⟨place, mem, same ▸ located⟩

/-! ## Files of different kinds -/

theorem advance_of_proper {step : String} (proper : 2 < step.length)
    (leads : advance place step = some route) : route = place ++ [step] := by
  have named (short : String) (small : short.length ≤ 2) : step ≠ short := by
    rintro rfl
    omega
  have some : step.isEmpty = false := by simpa using named "" (by decide)
  have up : step ≠ upStep := named upStep (by decide)
  simp only [advance, some, named "." (by decide), up, decide_false, Bool.or_self,
    Bool.false_eq_true, if_false] at leads
  split_ifs at leads
  exact (Option.some.inj leads).symm

/-- A way ends at what its last step is called, unless that is one of the short names that are
understood. -/
theorem exists_concat_of_walk {step : String} (proper : 2 < step.length)
    (walked : storage.walk place (way ++ [step]) = .ok route) :
    ∃ before, route = before ++ [step] := by
  induction way generalizing place with
  | nil =>
    obtain ⟨-, next, leads, walked⟩ := walk_cons_eq_ok.mp walked
    cases walked
    exact ⟨place, advance_of_proper proper leads⟩
  | cons first rest ih =>
    obtain ⟨-, next, -, walked⟩ := walk_cons_eq_ok.mp walked
    exact ih walked

/-- What a path ends with is in its last step. -/
theorem exists_splitOn_append (front : List Char) {ending : List Char} (plain : '/' ∉ ending) :
    ∃ before last, (front ++ ending).splitOn '/' = before ++ [last ++ ending] := by
  induction front with
  | nil => exact ⟨[], [], List.splitOn_eq_singleton plain⟩
  | cons c rest ih =>
    obtain ⟨before, last, pieces⟩ := ih
    rw [List.cons_append, List.splitOn_cons_eq_if_modifyHead, pieces]
    split_ifs
    · exact ⟨[] :: before, last, rfl⟩
    · cases before with
      | nil => exact ⟨[], c :: last, rfl⟩
      | cons piece others => exact ⟨(c :: piece) :: others, last, rfl⟩

/-- A file is at a place that ends as the file does. -/
theorem exists_concat_of_locate {front ending : String} (proper : 2 < ending.length)
    (plain : '/' ∉ ending.toList) (located : storage.locate (front ++ ending) = .ok route) :
    ∃ before step, route = before ++ [step] ∧ ending.toList <:+ step.toList := by
  obtain ⟨before, last, pieces⟩ := exists_splitOn_append front.toList plain
  have cut : steps (front ++ ending) =
      before.map String.ofList ++ [String.ofList (last ++ ending.toList)] := by
    rw [steps, String.toList_append, pieces, List.map_append]
    rfl
  obtain ⟨failure, fails⟩ | walks := locate_cases (front ++ ending)
  · simp [fails] at located
  · rw [(walks storage).1, cut] at located
    have long : 2 < (String.ofList (last ++ ending.toList)).length := by
      simp only [String.length_ofList, List.length_append, String.length_toList]
      omega
    obtain ⟨before, rfl⟩ := exists_concat_of_walk long located
    exact ⟨before, _, rfl, by simp⟩

theorem exists_file_eq_append (settings : Settings) (name extension : String) :
    ∃ front, settings.file name extension = front ++ ("." ++ extension) := by
  unfold Settings.file Settings.joinPath
  split_ifs
  · exact ⟨name, String.append_assoc⟩
  · exact ⟨settings.definitionsDir.getD "." ++ name, by simp only [String.append_assoc]⟩
  · exact ⟨settings.definitionsDir.getD "." ++ "/" ++ name, by simp only [String.append_assoc]⟩

/-- No menu is at the place of a definition file. -/
theorem ne_of_locate {settings : Settings} {name source : String} {place : Route}
    (definition : storage.locate (settings.file name Settings.definitionExtension) = .ok route)
    (menu : storage.locate (settings.file source Settings.menuExtension) = .ok place) :
    place ≠ route := by
  obtain ⟨_, written⟩ := exists_file_eq_append settings name Settings.definitionExtension
  obtain ⟨_, offered⟩ := exists_file_eq_append settings source Settings.menuExtension
  rw [written] at definition
  rw [offered] at menu
  obtain ⟨_, step, rfl, gen⟩ := exists_concat_of_locate (by decide) (by decide) definition
  obtain ⟨_, other, rfl, txt⟩ := exists_concat_of_locate (by decide) (by decide) menu
  intro same
  obtain rfl : other = step := by simpa using (List.append_inj' same rfl).2
  have := List.suffix_of_suffix_length_le gen txt (by decide)
  revert this
  decide

/-- Menus can be read as before if a definition file has been written. -/
theorem menu_of_write {settings : Settings} {name source : String} {values : List String}
    (written : storage.write (settings.file name Settings.definitionExtension) content = .ok later)
    (offers : storage.menu settings source = .ok values) :
    later.menu settings source = .ok values := by
  obtain ⟨route, located, ground, rfl⟩ := exists_of_write written
  obtain ⟨text, offered, cut⟩ := exists_of_map_eq_ok offers
  obtain ⟨place, bytes, found, seen, decoded⟩ := read_eq_ok.mp offered
  have still := locate_of_folders (fun _ => folder_put ground (.file content)) found
  have apart : place ≠ route := ne_of_locate located found
  have same := (item_put_of_ne apart (.file content)).trans seen
  rw [menu, read_eq_ok.mpr ⟨place, bytes, still, same, decoded⟩]
  exact congrArg Except.ok cut

end Storage

end Worldsmith
