import Worldsmith.Proofs.Sentence.Coinages
import Worldsmith.Proofs.Session.Nouns
import Worldsmith.Proofs.Session.Telling
import Worldsmith.Proofs.Statement.Naming

/-!
# Loading definition files

A file is loaded because of a noun that has not been looked for yet, and whatever files make or
rename is called by a noun from a file. So files are loaded within each other no deeper than there
are nouns in files, and to allow for more loads than that changes nothing. What is loaded depends on
no other files than those of the nouns that are looked for, and on menus.

## Main definitions

* `Knowledge.Follows` — knowledge has come of other knowledge by way of files.
* `Knowledge.loadBy` — one step of loading, given how to load what it asks for.
* `Shelf.Agrees` — two shelves have the same definition files for some nouns, and the same menus.
* `Shelf.Serves` — the same definition files, and all menus of one shelf.

## Main statements

* `Knowledge.load_eq_enough` — more loads than enough are no different from enough.
* `Knowledge.iterate_loadBy_eq` — loading never gets as deep as it is allowed to.
* `Knowledge.state_eq_ok_of_serves` — a declaration comes to the same on a shelf that serves.
-/

namespace Worldsmith

/-- A new kind is called as it was typed, or by the singular of that. -/
theorem eq_or_singular_eq_of_bothNumbers? {name singular plural : Name}
    {number : GrammaticalNumber} (forms : bothNumbers? name number = some (singular, plural)) :
    singular = name ∨ name.singular = .ok singular := by
  unfold bothNumbers? at forms
  split at forms
  · obtain ⟨_, -, same⟩ := Option.map_eq_some_iff.mp forms
    cases same
    exact .inl rfl
  · split at forms
    · rename_i found
      cases forms
      exact .inr found
    · obtain ⟨_, -, same⟩ := Option.map_eq_some_iff.mp forms
      cases same
      exact .inl rfl

theorem Name.untokenize_mem_nouns {part name singular : Name}
    (typed : name ∈ [part, part.lowerFirst])
    (called : singular = name ∨ name.singular = .ok singular) :
    untokenize singular ∈ part.nouns := by
  refine List.mem_map_of_mem (List.mem_append.mpr ?_)
  rcases called with rfl | inflected
  · exact .inl typed
  · exact .inr (List.mem_filterMap.mpr ⟨name, typed, by rw [inflected]; rfl⟩)

/-- A name that a line has for a kind is one of its nouns, or no name at all. -/
theorem World.untokenize_mem_nounsOfLine {world : World} {line : String} {reading : Reading}
    {name : Name} (understood : world.understand line = .ok reading) (names : reading.Names name) :
    untokenize name ∈ "" :: nounsOfLine line := by
  obtain ⟨tokens, cut, fits, quoted⟩ := exists_of_understand understood
  have among {part : Name} (some : part ≠ []) (isInfix : part <:+: dropStops tokens)
      (noun : untokenize name ∈ part.nouns) : untokenize name ∈ "" :: nounsOfLine line := by
    rw [nounsOfLine, cut]
    exact List.mem_cons_of_mem _ (List.mem_flatMap.mpr ⟨part, mem_stretches some isInfix, noun⟩)
  rcases names with ⟨plural, coined⟩ | said
  · cases fits _ coined with
    | kind part number atStart _ _ isInfix coinable forms _ =>
      refine among (fun none => by simp [none, isCoinable] at coinable) isInfix
        (Name.untokenize_mem_nouns ?_ (eq_or_singular_eq_of_bothNumbers? forms))
      split_ifs <;> simp
  · by_cases none : name = []
    · subst none
      exact List.mem_cons_self
    · exact among none (quoted name said) (Name.untokenize_mem_nouns (by simp) (.inl rfl))

namespace Knowledge

variable {shelf : Shelf} {nouns : List String} {known middle later : Knowledge}
  {path text line : String} {kinds : List (Id .kind)} {fuel : Nat}

/-! ## What files do -/

/-- Whether knowledge has come of other knowledge by way of files: all nouns that have been looked
for have been, and kinds are called what they were called, or by nouns of the files. -/
structure Follows (nouns : List String) (known later : Knowledge) : Prop where
  loaded : known.loaded ⊆ later.loaded
  name : ∀ id, later.world.kindName id = known.world.kindName id ∨
    later.world.kindName id ∈ nouns

theorem follows_self (nouns : List String) (known : Knowledge) : Follows nouns known known :=
  ⟨List.Subset.refl _, fun _ => .inl rfl⟩

theorem Follows.trans (h : Follows nouns known middle) (g : Follows nouns middle later) :
    Follows nouns known later where
  loaded := List.Subset.trans h.loaded g.loaded
  name id := (g.name id).elim (fun same => same ▸ h.name id) .inr

theorem Follows.name_mem (h : Follows nouns known later) {id : Id .kind}
    (mem : known.world.kindName id ∈ nouns) : later.world.kindName id ∈ nouns :=
  (h.name id).elim (fun same => same ▸ mem) fun mem => mem

/-- A kind that is not there has no name. -/
theorem kindName_of_size_le {world : World} {id : Id .kind}
    (missing : world.kinds.size ≤ id.index) : world.kindName id = "" := by
  rw [World.kindName, World.kind, Array.getD_eq_getD_getElem?, Array.getElem?_eq_none missing]
  rfl

/-- To carry out a declaration is not to look for any noun yet. -/
theorem loaded_of_perform {reading : Reading} {declaration : Declaration}
    (made : known.perform shelf line reading declaration = .ok (kinds, later)) :
    later.loaded = known.loaded := by
  unfold perform at made
  dsimp only at made
  split at made
  · cases made
    rfl
  · cases made

/-- What carrying out a line of a file does to what kinds are called. -/
theorem follows_perform {reading : Reading} {declaration : Declaration}
    (read : shelf.storage.read path = .ok text) (mem : line ∈ statementsIn text)
    (understood : known.world.understand line = .ok reading)
    (made : known.perform shelf line reading declaration = .ok (kinds, later)) :
    Follows shelf.storage.nouns known later ∧
      ∀ id ∈ kinds, later.world.kindName id ∈ shelf.storage.nouns := by
  unfold perform at made
  dsimp only at made
  split at made
  · rename_i made' world performed
    cases made
    obtain ⟨calls, after⟩ := reading.leads_perform line _ declaration _ rfl _ _ performed
    have named (id : Id .kind) : world.kindName id = known.world.kindName id ∨
        world.kindName id ∈ shelf.storage.nouns := by
      rcases calls.name id with same | ⟨name, names, same⟩
      · exact .inl same
      · right
        rw [same]
        rcases List.mem_cons.mp (World.untokenize_mem_nounsOfLine understood names) with none | noun
        · exact none ▸ List.mem_cons_self
        · exact Storage.mem_nouns read mem noun
    refine ⟨⟨List.Subset.refl _, named⟩, fun id mem => ?_⟩
    obtain same | named := named id
    · rw [same, kindName_of_size_le (after id mem)]
      exact List.mem_cons_self
    · exact named
  · cases made

theorem define_eq (load : List (Id .kind) → Knowledge → Except Error Knowledge) :
    known.define shelf load path line =
      match known.world.understand line with
      | .error error => .error error
      | .ok reading =>
        match reading.pattern.action with
        | .command _ => .error (.grammar (.rejected line (.commandInFile path)))
        | .declare declaration =>
          match known.perform shelf line reading declaration with
          | .error error => .error error
          | .ok (kinds, later) => load kinds later := by
  unfold define
  cases known.world.understand line with
  | error error => rfl
  | ok reading =>
    change (match reading.pattern.action with | .command _ => _ | .declare declaration => _) = _
    dsimp only
    cases reading.pattern.action with
    | command command => rfl
    | declare declaration =>
      dsimp only
      cases known.perform shelf line reading declaration <;> rfl

theorem follows_define {load : List (Id .kind) → Knowledge → Except Error Knowledge}
    (follows : ∀ {kinds known later}, load kinds known = .ok later →
      Follows shelf.storage.nouns known later)
    (read : shelf.storage.read path = .ok text) (mem : line ∈ statementsIn text)
    (made : known.define shelf load path line = .ok later) :
    Follows shelf.storage.nouns known later := by
  obtain ⟨reading, understood, made⟩ := exists_of_bind_eq_ok made
  split at made
  · cases made
  · obtain ⟨⟨kinds, middle⟩, performed, made⟩ := exists_of_bind_eq_ok made
    exact (follows_perform read mem understood performed).1.trans (follows made)

/-- Knowledge of which a noun has been looked for. -/
def lookFor (known : Knowledge) (noun : String) : Knowledge :=
  { known with loaded := known.loaded ++ [noun] }

theorem follows_lookFor (nouns : List String) (known : Knowledge) (noun : String) :
    Follows nouns known (known.lookFor noun) :=
  ⟨List.subset_append_left _ _, fun _ => .inl rfl⟩

theorem follows_loadKind {load : List (Id .kind) → Knowledge → Except Error Knowledge}
    (follows : ∀ {kinds known later}, load kinds known = .ok later →
      Follows shelf.storage.nouns known later)
    {kind : Id .kind} (made : known.loadKind shelf load kind = .ok later) :
    Follows shelf.storage.nouns known later ∧
      known.world.kindName kind ∈ later.loaded := by
  unfold loadKind at made
  dsimp only at made
  split at made
  · rename_i already
    cases made
    exact ⟨follows_self _ _, List.contains_iff_mem.mp already⟩
  · have looked := follows_lookFor shelf.storage.nouns known (known.world.kindName kind)
    have now : known.world.kindName kind ∈ (known.lookFor (known.world.kindName kind)).loaded :=
      List.mem_append_right _ List.mem_cons_self
    split at made
    · cases made
      exact ⟨looked, now⟩
    · cases made
    · rename_i text read
      have rest : Follows shelf.storage.nouns (known.lookFor (known.world.kindName kind)) later :=
        rel_of_foldlM (follows_self _) Follows.trans
          (fun mem defined => follows_define follows read mem defined) made
      exact ⟨looked.trans rest, rest.loaded now⟩

/-- What is loaded comes of what was known before by way of files. -/
theorem follows_load (made : load shelf fuel kinds known = .ok later) :
    Follows shelf.storage.nouns known later := by
  induction fuel generalizing kinds known later with
  | zero =>
    cases made
    exact follows_self _ _
  | succ fuel ih =>
    exact rel_of_foldlM (follows_self _) Follows.trans
      (fun _ loaded => (follows_loadKind ih loaded).1) made

/-! ## How deep files are loaded within each other -/

/-- The number of nouns that have not been looked for. -/
def unread (nouns : List String) (known : Knowledge) : Nat :=
  nouns.countP fun noun => !known.loaded.contains noun

theorem Follows.unread_le (h : Follows nouns known later) :
    later.unread nouns ≤ known.unread nouns := by
  refine List.countP_mono_left fun noun _ => ?_
  simpa using mt (@h.loaded noun)

theorem unread_lookFor_lt {noun : String} (mem : noun ∈ nouns)
    (unread : known.loaded.contains noun = false) :
    (known.lookFor noun).unread nouns < known.unread nouns := by
  refine countP_lt_of_mem mem (fun other => ?_) (by rw [unread]; rfl) (by simp [lookFor])
  simp only [Bool.not_eq_true', List.contains_eq_mem, decide_eq_false_iff_not]
  exact mt (List.mem_append_left [noun])

/-- Carrying out the lines of a file is the same with two ways of loading that do the same from
where they begin on. -/
theorem foldlM_define_congr {load load' : List (Id .kind) → Knowledge → Except Error Knowledge}
    {bound : Nat} (read : shelf.storage.read path = .ok text)
    (few : known.unread shelf.storage.nouns ≤ bound)
    (follows : ∀ {kinds known later}, load kinds known = .ok later →
      Follows shelf.storage.nouns known later)
    (same : ∀ {kinds known}, (∀ id ∈ kinds, known.world.kindName id ∈ shelf.storage.nouns) →
      known.unread shelf.storage.nouns ≤ bound → load kinds known = load' kinds known) :
    (statementsIn text).foldlM (define shelf load path) known =
      (statementsIn text).foldlM (define shelf load' path) known := by
  refine foldlM_congr (fun known => known.unread shelf.storage.nouns ≤ bound) few ?_ ?_
  · intro known line mem few
    rw [define_eq, define_eq]
    cases understood : known.world.understand line with
    | error error => rfl
    | ok reading =>
      dsimp only
      cases reading.pattern.action with
      | command command => rfl
      | declare declaration =>
        dsimp only
        cases performed : known.perform shelf line reading declaration with
        | error error => rfl
        | ok made =>
          obtain ⟨kinds, later⟩ := made
          obtain ⟨follows, named⟩ := follows_perform read mem understood performed
          exact same named (follows.unread_le.trans few)
  · intro known line later mem few made
    exact (follows_define follows read mem made).unread_le.trans few

theorem loadKind_congr {load load' : List (Id .kind) → Knowledge → Except Error Knowledge}
    {bound : Nat} {kind : Id .kind}
    (few : known.loaded.contains (known.world.kindName kind) = false →
      (known.lookFor (known.world.kindName kind)).unread shelf.storage.nouns ≤ bound)
    (follows : ∀ {kinds known later}, load kinds known = .ok later →
      Follows shelf.storage.nouns known later)
    (same : ∀ {kinds known}, (∀ id ∈ kinds, known.world.kindName id ∈ shelf.storage.nouns) →
      known.unread shelf.storage.nouns ≤ bound → load kinds known = load' kinds known) :
    known.loadKind shelf load kind = known.loadKind shelf load' kind := by
  unfold loadKind
  dsimp only
  split
  · rfl
  · rename_i unread
    split
    · rfl
    · rfl
    · rename_i text read
      exact foldlM_define_congr read (few (by simpa using unread)) follows same

/-- How to load what is asked for: from kinds that have been made, and what is known. -/
abbrev Load := List (Id .kind) → Knowledge → Except Error Knowledge

/-- Load the definition files of kinds, and what their lines ask for as told. -/
def loadBy (shelf : Shelf) (load : Load) : Load := fun kinds known =>
  kinds.foldlM (loadKind shelf load) known

theorem load_add (shelf : Shelf) (n fuel : Nat) :
    load shelf (n + fuel) = (loadBy shelf)^[n] (load shelf fuel) := by
  induction n with
  | zero => rw [Nat.zero_add, Function.iterate_zero, id]
  | succ n ih => rw [Function.iterate_succ_apply', ← ih, Nat.add_right_comm]; rfl

/-- Whether a way of loading does nothing for kinds whose nouns have all been looked for. -/
def Skips (load : Load) : Prop :=
  ∀ kinds known, (∀ id ∈ kinds, known.loaded.contains (known.world.kindName id)) →
    load kinds known = .ok known

theorem skips_loadBy (shelf : Shelf) (load : Load) : Skips (loadBy shelf load) := by
  intro kinds known all
  induction kinds with
  | nil => rfl
  | cons kind rest ih =>
    obtain ⟨first, others⟩ := List.forall_mem_cons.mp all
    have already : known.loadKind shelf load kind = .ok known := if_pos first
    rw [loadBy, List.foldlM_cons, already]
    exact ih others

theorem skips_load (shelf : Shelf) (fuel : Nat) : Skips (load shelf fuel) := by
  cases fuel with
  | zero => exact fun _ _ _ => rfl
  | succ fuel => exact skips_loadBy shelf _

/-- Once there are as many loads within each other as there are nouns to look for, it makes no
difference how anything would be loaded within those. -/
theorem load_eq_iterate {beyond : Load} (skips : Skips beyond)
    (named : ∀ id ∈ kinds, known.world.kindName id ∈ shelf.storage.nouns)
    (few : known.unread shelf.storage.nouns ≤ fuel) :
    load shelf fuel kinds known = (loadBy shelf)^[fuel] beyond kinds known := by
  induction fuel generalizing kinds known with
  | zero =>
    have all : ∀ noun ∈ shelf.storage.nouns, known.loaded.contains noun = true := by
      simpa [unread] using few
    exact (skips kinds known fun id mem => all _ (named id mem)).symm
  | succ fuel ih =>
    rw [Function.iterate_succ_apply']
    refine foldlM_congr (fun known => (∀ id ∈ kinds, known.world.kindName id ∈ shelf.storage.nouns)
      ∧ known.unread shelf.storage.nouns ≤ fuel + 1) ⟨named, few⟩ ?_ ?_
    · intro known kind mem ⟨named, few⟩
      refine loadKind_congr (fun unread => ?_) follows_load ih
      exact Nat.le_of_lt_succ ((unread_lookFor_lt (named kind mem) unread).trans_le few)
    · intro known kind later mem ⟨named, few⟩ made
      have follows := (follows_loadKind follows_load made).1
      exact ⟨fun id mem => follows.name_mem (named id mem), follows.unread_le.trans few⟩

/-- Enough loads are enough, whatever kinds they begin with. -/
theorem load_enough_eq_iterate {beyond : Load} (skips : Skips beyond) (kinds : List (Id .kind))
    (known : Knowledge) : load shelf (enoughLoads shelf.storage) kinds known =
      (loadBy shelf)^[enoughLoads shelf.storage] beyond kinds known := by
  obtain ⟨enough, same⟩ : ∃ enough, enoughLoads shelf.storage = enough + 1 := ⟨_, rfl⟩
  have few (known : Knowledge) : known.unread shelf.storage.nouns ≤ enough := by
    have := Storage.length_nouns_lt shelf.storage
    have := List.countP_le_length (p := fun noun => !known.loaded.contains noun)
      (l := shelf.storage.nouns)
    simp only [unread]
    omega
  rw [same, Function.iterate_succ_apply']
  refine foldlM_congr (fun _ => True) trivial (fun {known kind} _ _ => ?_) fun _ _ _ => trivial
  exact loadKind_congr (fun _ => few _) follows_load fun named => load_eq_iterate skips named

/-- More loads than enough are no different from enough. -/
theorem load_eq_enough {more : Nat} (le : enoughLoads shelf.storage ≤ more) :
    load shelf more kinds known = load shelf (enoughLoads shelf.storage) kinds known := by
  obtain ⟨extra, rfl⟩ := Nat.exists_eq_add_of_le le
  rw [load_add, load_enough_eq_iterate (skips_load shelf extra)]

/-- Loading ends: however it were to go on any deeper, it never gets there. -/
theorem iterate_loadBy_eq (beyond : Load) {depth : Nat}
    (deep : enoughLoads shelf.storage < depth) (kinds : List (Id .kind)) (known : Knowledge) :
    (loadBy shelf)^[depth] beyond kinds known =
      load shelf (enoughLoads shelf.storage) kinds known := by
  obtain ⟨extra, rfl⟩ := Nat.exists_eq_add_of_lt deep
  rw [Nat.add_assoc, Function.iterate_add_apply, Function.iterate_succ_apply',
    load_enough_eq_iterate (skips_loadBy shelf _)]

end Knowledge

/-! ## What loading depends on -/

section Menus

variable {menu other : String → Except ResourceError (List String)}

theorem Statement.refines_menuProperty {line : String} {reading : Reading} {coined : List Concept}
    (same : ∀ source values, menu source = .ok values → other source = .ok values) :
    Edit.Refines (Statement.menuProperty ⟨line, reading, coined, menu⟩)
      (Statement.menuProperty ⟨line, reading, coined, other⟩) := by
  refine .bind (.refl _) fun kind => .bind (.refl _) fun text =>
    .bind (.of_lift fun values offered => ?_) fun values => .refl _
  dsimp only at offered ⊢
  cases read : menu (untokenize text) with
  | error error =>
    rw [read] at offered
    cases offered
  | ok values' =>
    rw [read] at offered
    cases offered
    rw [same _ _ read]
    rfl

/-- A declaration comes to the same with more menus. -/
theorem Reading.refines_perform (reading : Reading) (line : String) (declaration : Declaration)
    (same : ∀ source values, menu source = .ok values → other source = .ok values) :
    Edit.Refines (reading.perform line menu declaration)
      (reading.perform line other declaration) := by
  refine .bind (.refl _) fun coined => .bind ?_ fun _ => .refl _
  cases declaration with
  | menu => exact Statement.refines_menuProperty same
  | _ => exact .refl _

end Menus

/-- Whether another shelf serves for a shelf: it has the same definition files for some nouns, and
all of its menus. -/
structure Shelf.Serves (nouns : List String) (shelf other : Shelf) : Prop where
  settings : other.settings = shelf.settings
  definition : ∀ noun ∈ nouns,
    other.storage.read (shelf.settings.file noun Settings.definitionExtension) =
      shelf.storage.read (shelf.settings.file noun Settings.definitionExtension)
  menu : ∀ source values, shelf.storage.menu shelf.settings source = .ok values →
    other.storage.menu shelf.settings source = .ok values

namespace Shelf.Serves

variable {nouns fewer : List String} {shelf other : Shelf}

theorem refl (nouns : List String) (shelf : Shelf) : shelf.Serves nouns shelf :=
  ⟨rfl, fun _ _ => rfl, fun _ _ => id⟩

theorem mono (h : shelf.Serves nouns other) (sub : fewer ⊆ nouns) : shelf.Serves fewer other :=
  ⟨h.settings, fun noun mem => h.definition noun (sub mem), h.menu⟩

end Shelf.Serves

/-- Whether two shelves have the same definition files for some nouns, and the same menus. -/
structure Shelf.Agrees (nouns : List String) (shelf other : Shelf) : Prop where
  settings : other.settings = shelf.settings
  definition : ∀ noun ∈ nouns,
    other.storage.read (shelf.settings.file noun Settings.definitionExtension) =
      shelf.storage.read (shelf.settings.file noun Settings.definitionExtension)
  menu : ∀ source, other.storage.menu shelf.settings source =
    shelf.storage.menu shelf.settings source

namespace Shelf.Agrees

variable {nouns : List String} {shelf other : Shelf}

theorem refl (nouns : List String) (shelf : Shelf) : shelf.Agrees nouns shelf :=
  ⟨rfl, fun _ _ => rfl, fun _ => rfl⟩

theorem serves (h : shelf.Agrees nouns other) : shelf.Serves nouns other :=
  ⟨h.settings, h.definition, fun source _ offers => (h.menu source).trans offers⟩

end Shelf.Agrees

namespace Knowledge

variable {shelf other : Shelf} {known later : Knowledge} {line : String} {kinds : List (Id .kind)}
  {fuel : Nat} {reading : Reading} {declaration : Declaration}

/-- What a declaration does to a world depends on a shelf by its menus only. -/
theorem perform_eq_ok_of_serves {nouns : List String} (serves : shelf.Serves nouns other)
    (made : known.perform shelf line reading declaration = .ok (kinds, later)) :
    known.perform other line reading declaration = .ok (kinds, later) := by
  unfold perform at made ⊢
  dsimp only at made ⊢
  split at made
  · rename_i performed
    have menus (source : String) (values : List String)
        (offers : shelf.storage.menu shelf.settings source = .ok values) :
        other.storage.menu other.settings source = .ok values := by
      rw [serves.settings]
      exact serves.menu source values offers
    rw [reading.refines_perform line declaration menus _ _ _ performed]
    exact made
  · cases made

theorem define_eq_ok_of_serves {path : String} (serves : shelf.Serves later.loaded other)
    (same : ∀ {kinds known later}, shelf.Serves later.loaded other →
      load shelf fuel kinds known = .ok later → load other fuel kinds known = .ok later)
    (made : known.define shelf (load shelf fuel) path line = .ok later) :
    known.define other (load other fuel) path line = .ok later := by
  rw [define_eq] at made ⊢
  split at made
  · cases made
  · split at made
    · cases made
    · split at made
      · cases made
      · rename_i performed
        rw [perform_eq_ok_of_serves serves performed]
        exact same serves made

theorem loadKind_eq_ok_of_serves {kind : Id .kind} (serves : shelf.Serves later.loaded other)
    (same : ∀ {kinds known later}, shelf.Serves later.loaded other →
      load shelf fuel kinds known = .ok later → load other fuel kinds known = .ok later)
    (made : known.loadKind shelf (load shelf fuel) kind = .ok later) :
    known.loadKind other (load other fuel) kind = .ok later := by
  have noun := (follows_loadKind follows_load made).2
  unfold loadKind at made ⊢
  dsimp only at made ⊢
  split at made
  · rename_i already
    rw [if_pos already]
    exact made
  · rename_i unread
    rw [if_neg unread, serves.settings, serves.definition _ noun]
    split at made
    · exact made
    · cases made
    · rename_i text read
      refine foldlM_eq_ok (fun known later => known.loaded ⊆ later.loaded)
        (fun _ => List.Subset.refl _) List.Subset.trans ?_ ?_ made
      · exact fun mem defined => (follows_define follows_load read mem defined).loaded
      · intro known line middle defined fewer
        exact define_eq_ok_of_serves (serves.mono fewer) same defined

theorem load_eq_ok_of_serves (serves : shelf.Serves later.loaded other)
    (made : load shelf fuel kinds known = .ok later) : load other fuel kinds known = .ok later := by
  induction fuel generalizing kinds known later with
  | zero => exact made
  | succ fuel ih =>
    refine foldlM_eq_ok (fun known later => known.loaded ⊆ later.loaded)
      (fun _ => List.Subset.refl _) List.Subset.trans ?_ ?_ made
    · exact fun _ loaded => (follows_loadKind follows_load loaded).1.loaded
    · intro known kind middle loaded fewer
      exact loadKind_eq_ok_of_serves (serves.mono fewer) ih loaded

/-- A declaration comes to the same on a shelf that serves for the nouns that it makes to be looked
for, and before. -/
theorem state_eq_ok_of_serves (serves : shelf.Serves later.loaded other)
    (made : known.state shelf line reading declaration = .ok later) :
    known.state other line reading declaration = .ok later := by
  obtain ⟨⟨kinds, middle⟩, performed, loaded⟩ := exists_of_bind_eq_ok made
  have both := Nat.le_max_left (enoughLoads shelf.storage) (enoughLoads other.storage)
  have either := Nat.le_max_right (enoughLoads shelf.storage) (enoughLoads other.storage)
  dsimp only at loaded
  rw [← load_eq_enough both] at loaded
  rw [state, perform_eq_ok_of_serves serves performed]
  exact (load_eq_enough either).symm.trans (load_eq_ok_of_serves serves loaded)

theorem loaded_subset_of_state (made : known.state shelf line reading declaration = .ok later) :
    known.loaded ⊆ later.loaded := by
  obtain ⟨⟨kinds, middle⟩, performed, loaded⟩ := exists_of_bind_eq_ok made
  exact loaded_of_perform performed ▸ (follows_load loaded).loaded

end Knowledge

end Worldsmith
