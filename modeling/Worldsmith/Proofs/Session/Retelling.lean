import Worldsmith.Proofs.Sentence.Subkinds
import Worldsmith.Proofs.Session.History
import Worldsmith.Proofs.World.Restatement

/-!
# Telling a taxonomy anew

What a world restates are sentences that a session can be told. If all that a world holds are kinds
with edges between them, a session that is told these sentences, and knows nothing else, comes to
know the same kinds in another order, and restates the same sentences. Each sentence makes the kinds
that it is the first to mention, and draws one edge.

## Main definitions

* `Shelf.Lacks` — there is no definition file for a noun.
* `World.IsCalled` — the kinds of a world are called by nouns that can be told apart.
* `World.Retells` — a world is what comes of telling some edges of another.

## Main statements

* `World.Retells.tell` — one more edge is told by the sentence for it.
* `Session.replay_restate` — a session that is told what a taxonomy restates accepts it line by
  line, and restates the same.
-/

namespace Worldsmith

/-- Whether there is no definition file for a noun. -/
def Shelf.Lacks (shelf : Shelf) (noun : String) : Prop :=
  ∃ path, shelf.storage.read (shelf.settings.file noun Settings.definitionExtension) =
    .error (.notFound path)

namespace Knowledge

variable {shelf : Shelf} {kind : Id .kind} {kinds : List (Id .kind)}

theorem exists_loadKind_of_lacks {load : List (Id .kind) → Knowledge → Except Error Knowledge}
    (world : World) (loaded : List String) (lacks : shelf.Lacks (world.kindName kind)) :
    ∃ loaded', loadKind shelf load ⟨world, loaded⟩ kind = .ok ⟨world, loaded'⟩ := by
  obtain ⟨path, missing⟩ := lacks
  rw [loadKind]
  dsimp only
  split_ifs
  · exact ⟨loaded, rfl⟩
  · rw [missing]
    exact ⟨loaded ++ [world.kindName kind], rfl⟩

/-- Where there are no definition files, looking for them leaves the world as it is. -/
theorem exists_load_of_lacks (fuel : Nat) (world : World) (loaded : List String)
    (lacks : ∀ kind ∈ kinds, shelf.Lacks (world.kindName kind)) :
    ∃ loaded', load shelf fuel kinds ⟨world, loaded⟩ = .ok ⟨world, loaded'⟩ := by
  cases fuel with
  | zero => exact ⟨loaded, rfl⟩
  | succ fuel =>
    rw [load]
    induction kinds generalizing loaded with
    | nil => exact ⟨loaded, rfl⟩
    | cons kind rest ih =>
      obtain ⟨here, others⟩ := List.forall_mem_cons.mp lacks
      obtain ⟨between, looked⟩ := exists_loadKind_of_lacks world loaded here
      rw [List.foldlM_cons, looked]
      exact ih between others

end Knowledge

section Performance

variable {world between later : World}

theorem Edit.perform_mapM_append {α β : Type} {f : α → Edit β} {xs ys : List α} {as bs : List β}
    (first : (xs.mapM f).perform world = (.ok as, between))
    (second : (ys.mapM f).perform between = (.ok bs, later)) :
    ((xs ++ ys).mapM f).perform world = (.ok (as ++ bs), later) := by
  rw [List.mapM_append, perform_bind, first]
  dsimp only
  rw [perform_bind, second]
  rfl

theorem Statement.kind_eq_ok {s : Statement} {phrase : NounPhrase} {kind : Id .kind}
    (stands : s.concept phrase.head = .ok (.kind kind)) : s.kind phrase = .ok kind := by
  rw [Statement.kind, stands]
  rfl

/-- A sentence about one kind says of that kind that it is just below another. -/
theorem Statement.perform_subkinds {s : Statement} {phrase : NounPhrase} {sub parent : Id .kind}
    (object : s.kindAt 0 = .ok parent) (subjects : s.reading.nouns 0 = .ok ⟨[phrase], none⟩)
    (subject : s.kind phrase = .ok sub) :
    s.subkinds.perform world = (Edit.declareSuperkind sub parent).perform world := by
  rw [Statement.subkinds, object, subjects]
  change Edit.perform ([phrase].forM fun phrase => do
    Edit.declareSuperkind (← s.kind phrase) parent) world = _
  rw [List.forM_eq_forM, List.forM_cons, List.forM_nil, subject]
  exact congrArg (Edit.perform · world) (bind_pure (Edit.declareSuperkind sub parent))

theorem Reading.perform_eq {reading : Reading} {line : String}
    {menu : String → Except ResourceError (List String)} {declaration : Declaration}
    {coined : List Concept}
    (created : (reading.coinages.mapM Coinage.create).perform world = (.ok coined, between))
    (declared : (Statement.declare ⟨line, reading, coined, menu⟩ declaration).perform between =
      (.ok (), later)) :
    (reading.perform line menu declaration).perform world =
      (.ok (Concept.kinds coined), later) := by
  rw [Reading.perform, Edit.perform_bind, created]
  dsimp only
  rw [Edit.perform_bind, declared]
  rfl

end Performance

namespace World

variable {shelf : Shelf} {world later : World} {noun : Id .kind → Noun} {known : List (Id .kind)}
  {told : List (Id .kind × Id .kind)} {id sub parent : Id .kind} {singular plural : Name}

/-! ## What has been told so far -/

/-- The kind that stands for one of some kinds, where they are told one after another. -/
def place (known : List (Id .kind)) (kind : Id .kind) : Id .kind := ⟨known.idxOf kind⟩

theorem place_inj {a b : Id .kind} (mem : a ∈ known) (same : place known a = place known b) :
    a = b :=
  (List.idxOf_inj mem).mp (congrArg Id.index same)

theorem place_of_grows {more : List (Id .kind)} (mem : id ∈ known) (grows : known <+: more) :
    place more id = place known id := by
  obtain ⟨rest, rfl⟩ := grows
  rw [place, List.idxOf_append_of_mem mem, place]

theorem place_concat (new : id ∉ known) : place (known ++ [id]) id = ⟨known.length⟩ := by
  rw [place, List.idxOf_append_of_notMem new]
  simp

/-- Whether the kinds of a world are called by nouns that can be told apart. -/
structure IsCalled (world : World) (noun : Id .kind → Noun) : Prop where
  plural : ∀ kind, world.Owns kind → (world.kind kind).plural = (noun kind).plural
  apart : ∀ a b, world.Owns a → world.Owns b → a ≠ b → (noun a).Apart (noun b)

/-- Whether a world is what comes of telling some edges of another, so that some kinds are known. -/
structure Retells (world : World) (noun : Id .kind → Noun) (later : World)
    (known : List (Id .kind)) (told : List (Id .kind × Id .kind)) : Prop where
  taxonomy : later.IsPlainTaxonomy
  owned : ∀ kind ∈ known, world.Owns kind
  names : later.vocabulary.kinds.toList =
    known.map fun kind => ((noun kind).singular, (noun kind).plural)
  finds : ∀ kind ∈ known, ∃ form,
    later.find? (noun kind).plural = some ⟨.kind (place known kind), form⟩
  only : ∀ name found, later.find? name = some found → ∃ kind ∈ known,
    name.keys = (noun kind).singular.keys ∨ name.keys = (noun kind).plural.keys
  drawn : ∀ edge ∈ told, world.JustBelow edge.1 edge.2
  within : ∀ edge ∈ told, edge.1 ∈ known ∧ edge.2 ∈ known
  edges : ∀ sub parent, later.JustBelow sub parent ↔
    ∃ edge ∈ told, place known edge.1 = sub ∧ place known edge.2 = parent

theorem retells_empty : world.Retells noun empty [] [] := by
  have nowhere (sub parent : Id .kind) : ¬ empty.JustBelow sub parent :=
    fun edge => Nat.not_lt_zero _ (lt_size_of_justBelow edge)
  refine ⟨isPlainTaxonomy_empty, nofun, by simp [vocabulary, empty], nofun,
    fun name found leads => ?_, nofun, nofun,
    fun sub parent => iff_of_false (nowhere sub parent) nofun⟩
  cases (Lexicon.get?_empty name).symm.trans leads

namespace Retells

theorem size_eq (retells : world.Retells noun later known told) :
    later.kinds.size = known.length := by
  simpa [vocabulary] using congrArg List.length retells.names

theorem owns_place (retells : world.Retells noun later known told) (mem : id ∈ known) :
    later.Owns (place known id) := by
  change known.idxOf id < later.kinds.size
  exact retells.size_eq ▸ List.idxOf_lt_length_of_mem mem

theorem names_place (retells : world.Retells noun later known told) (mem : id ∈ known) :
    (later.kind (place known id)).singular = (noun id).singular ∧
      (later.kind (place known id)).plural = (noun id).plural := by
  have inside : known.idxOf id < later.kinds.size := retells.owns_place mem
  have called : later.vocabulary.kinds.toList[known.idxOf id]? =
      some ((noun id).singular, (noun id).plural) := by
    rw [retells.names, List.getElem?_map, List.getElem?_idxOf mem]
    rfl
  simp [vocabulary, inside, Kind.names] at called
  simpa [place, kind, inside] using called

/-- Nothing is known that begins like the name of a kind that is not known. -/
theorem find?_eq_none (retells : world.Retells noun later known told) (called : world.IsCalled noun)
    (owned : world.Owns id) (new : id ∉ known) {name start : Name}
    (own : name ∈ [(noun id).singular, (noun id).plural]) (begins : start.keys <+: name.keys) :
    later.find? start = none := by
  rw [Option.eq_none_iff_forall_ne_some]
  intro found leads
  obtain ⟨kind, mem, spelt⟩ := retells.only _ found leads
  have apart := called.apart kind id (retells.owned kind mem) owned (fun same => new (same ▸ mem))
  rcases spelt with spelt | spelt
  · exact (apart _ List.mem_cons_self name own).1 (spelt ▸ begins)
  · exact (apart _ (List.mem_cons_of_mem _ List.mem_cons_self) name own).1 (spelt ▸ begins)

theorem beginsNone (retells : world.Retells noun later known told) (called : world.IsCalled noun)
    (owned : world.Owns id) (new : id ∉ known) : later.lexicon.BeginsNone (noun id).plural := by
  intro n _ _
  refine retells.find?_eq_none called owned new (List.mem_cons_of_mem _ List.mem_cons_self) ?_
  rw [Name.keys, Name.keys, List.map_take]
  exact List.take_prefix _ _

/-- One more kind is known. -/
theorem withKind (retells : world.Retells noun later known told) (called : world.IsCalled noun)
    (owned : world.Owns id) (new : id ∉ known) :
    world.Retells noun (later.withKind (noun id).singular (noun id).plural) (known ++ [id])
      told where
  taxonomy := retells.taxonomy.withKind (noun id).plural_eq
  owned := List.forall_mem_append.mpr ⟨retells.owned, List.forall_mem_singleton.mpr owned⟩
  names := by
    have pushed : (later.withKind (noun id).singular (noun id).plural).vocabulary.kinds.toList =
        later.vocabulary.kinds.toList ++ [((noun id).singular, (noun id).plural)] := by
      simp [vocabulary, World.withKind, Kind.names, Kind.named]
    rw [pushed, retells.names, List.map_append]
    rfl
  finds := by
    intro kind mem
    rcases List.mem_append.mp mem with mem | mem
    · obtain ⟨form, leads⟩ := retells.finds kind mem
      have apart := called.apart kind id (retells.owned kind mem) owned
        (fun same => new (same ▸ mem))
      refine ⟨form, ?_⟩
      rw [place_of_grows mem (List.prefix_append _ _), ← leads]
      exact find?_withKind_of_apart fun own among same =>
        (apart _ (List.mem_cons_of_mem _ List.mem_cons_self) own among).1 (same ▸ List.prefix_rfl)
    · obtain rfl := List.mem_singleton.mp mem
      rw [place_concat new, ← retells.size_eq]
      exact exists_find?_withKind later _ _
  only name found leads := by
    by_cases own : ∃ own ∈ [(noun id).singular, (noun id).plural], name.keys = own.keys
    · exact ⟨id, List.mem_append_right _ (List.mem_singleton_self id), by simpa using own⟩
    · have apart : ∀ own ∈ [(noun id).singular, (noun id).plural], name.keys ≠ own.keys :=
        fun spelt mem same => own ⟨spelt, mem, same⟩
      obtain ⟨kind, mem, spelt⟩ :=
        retells.only name found ((find?_withKind_of_apart apart).symm.trans leads)
      exact ⟨kind, List.mem_append_left _ mem, spelt⟩
  drawn := retells.drawn
  within edge mem := by
    obtain ⟨sub, parent⟩ := retells.within edge mem
    exact ⟨List.mem_append_left _ sub, List.mem_append_left _ parent⟩
  edges sub parent := by
    rw [justBelow_withKind_iff, retells.edges]
    refine exists_congr fun edge => and_congr_right fun mem => ?_
    obtain ⟨sub, parent⟩ := retells.within edge mem
    rw [place_of_grows sub (List.prefix_append _ _),
      place_of_grows parent (List.prefix_append _ _)]

/-- Kinds that have been told are below each other only if they were so before. -/
theorem exists_below (retells : world.Retells noun later known told) {a target : Id .kind}
    (mem : a ∈ known) (below : later.Below (place known a) target) :
    ∃ b ∈ known, place known b = target ∧ world.Below a b := by
  induction below with
  | refl => exact ⟨a, mem, rfl, .refl⟩
  | tail _ edge ih =>
    obtain ⟨b, mem', rfl, below⟩ := ih
    obtain ⟨⟨s, p⟩, told, start, rfl⟩ := (retells.edges _ _).mp edge
    obtain ⟨startKnown, endKnown⟩ := retells.within _ told
    obtain rfl := place_inj startKnown start
    exact ⟨p, endKnown, rfl, below.tail (retells.drawn _ told)⟩

/-- An edge that has not been told yet can be told. -/
theorem addEdge (retells : world.Retells noun later known told) (hierarchy : world.IsHierarchy)
    (subKnown : sub ∈ known) (parentKnown : parent ∈ known) (edge : world.JustBelow sub parent)
    (new : (sub, parent) ∉ told) :
    (Edit.declareSuperkind (place known sub) (place known parent)).perform later =
        (.ok (), later.addEdge (place known sub) (place known parent)) ∧
      world.Retells noun (later.addEdge (place known sub) (place known parent)) known
        (told ++ [(sub, parent)]) := by
  have subOwned := retells.owns_place subKnown
  have parentOwned := retells.owns_place parentKnown
  have free : ¬ later.Below (place known parent) (place known sub) := by
    intro below
    obtain ⟨b, mem, same, above⟩ := retells.exists_below parentKnown below
    obtain rfl := place_inj mem same
    exact hierarchy.acyclic b (.head' edge above)
  have absent : ¬ later.JustBelow (place known sub) (place known parent) := by
    intro below
    obtain ⟨edge, mem, start, stop⟩ := (retells.edges _ _).mp below
    obtain ⟨startKnown, endKnown⟩ := retells.within edge mem
    have start := place_inj startKnown start
    have stop := place_inj endKnown stop
    exact new (start ▸ stop ▸ mem)
  refine ⟨perform_declareSuperkind_new free absent, ?_⟩
  have taxonomy := retells.taxonomy.addEdge subOwned parentOwned free absent
  refine ⟨taxonomy, retells.owned, ?_, retells.finds, retells.only, ?_, ?_, fun s p => ?_⟩
  · rw [vocabulary_addEdge]
    exact retells.names
  · exact List.forall_mem_append.mpr ⟨retells.drawn, List.forall_mem_singleton.mpr edge⟩
  · exact List.forall_mem_append.mpr
      ⟨retells.within, List.forall_mem_singleton.mpr ⟨subKnown, parentKnown⟩⟩
  · rw [justBelow_addEdge_iff subOwned parentOwned, retells.edges]
    simp only [List.mem_append, List.mem_singleton, or_and_right, exists_or, exists_eq_left]
    rw [eq_comm (a := s), eq_comm (a := p)]

end Retells

/-! ## Kinds that a sentence mentions -/

theorem prefix_adjoin : known <+: adjoin id known := by
  rw [adjoin]
  split_ifs
  · exact List.prefix_rfl
  · exact List.prefix_append _ _

/-- The coinages of a kind that a sentence mentions. -/
def announced (noun : Id .kind → Noun) (known : List (Id .kind)) (kind : Id .kind) : List Coinage :=
  if kind ∈ known then [] else [.kind (noun kind).singular (noun kind).plural]

/-- The concepts that these become where kinds are told in some order. -/
def announcedConcepts (known order : List (Id .kind)) (kind : Id .kind) : List Concept :=
  if kind ∈ known then [] else [.kind (place order kind)]

theorem length_announcedConcepts {order : List (Id .kind)} :
    (announcedConcepts known order id).length = (announced noun known id).length := by
  rw [announcedConcepts, announced]
  split_ifs <;> rfl

namespace Retells

/-- What a sentence mentions, and has coined if it is not known, stands for the kind. -/
theorem mentions (retells : world.Retells noun later known told) (called : world.IsCalled noun)
    (owned : world.Owns id) (coinages : List Coinage) {order : List (Id .kind)}
    (unclaimed : ∀ coinage ∈ coinages, coinage.isNamed (noun id).plural = false)
    (grows : known <+: order) :
    ∃ mention, later.Mentions (noun id) coinages mention (coinages ++ announced noun known id) ∧
      ∀ (s : Statement) (before after : List Concept), before.length = coinages.length →
        s.coined = before ++ announcedConcepts known order id ++ after →
          s.concept mention = .ok (.kind (place order id)) := by
  by_cases mem : id ∈ known
  · obtain ⟨form, leads⟩ := retells.finds id mem
    refine ⟨.known (.kind (place known id)), ?_, fun s _ _ _ _ => ?_⟩
    · rw [announced, if_pos mem, List.append_nil]
      exact .known _ form leads
    · rw [place_of_grows mem grows, Statement.concept]
  · refine ⟨.coined coinages.length, ?_, fun s before after same coined => ?_⟩
    · rw [announced, if_neg mem]
      exact .new (retells.beginsNone called owned mem)
        (retells.find?_eq_none called owned mem List.mem_cons_self List.prefix_rfl) unclaimed
    · rw [Statement.concept, coined, announcedConcepts, if_neg mem, ← same]
      simp

/-- The coinage for a kind makes it known. -/
theorem announce (retells : world.Retells noun later known told) (called : world.IsCalled noun)
    (owned : world.Owns id) : ∃ later',
      ((announced noun known id).mapM Coinage.create).perform later =
        (.ok (announcedConcepts known (adjoin id known) id), later') ∧
      world.Retells noun later' (adjoin id known) told := by
  by_cases mem : id ∈ known
  · refine ⟨later, ?_, ?_⟩
    · rw [announced, announcedConcepts, if_pos mem, if_pos mem]
      rfl
    · rwa [adjoin, if_pos (List.contains_iff_mem.mpr mem)]
  · have free {name : Name} (own : name ∈ [(noun id).singular, (noun id).plural]) :
        later.find? name = none := retells.find?_eq_none called owned mem own List.prefix_rfl
    refine ⟨later.withKind (noun id).singular (noun id).plural, ?_, ?_⟩
    · rw [announced, announcedConcepts, if_neg mem, if_neg mem, adjoin, if_neg (by simpa using mem),
        place_concat mem, ← retells.size_eq, List.mapM_cons, List.mapM_nil, Coinage.create]
      simp only [bind_assoc, pure_bind]
      rw [Edit.perform_bind, perform_addKind (free List.mem_cons_self)
        (free (List.mem_cons_of_mem _ List.mem_cons_self))]
      rfl
    · rw [adjoin, if_neg (by simpa using mem)]
      exact retells.withKind called owned mem

/-- The coinages for two kinds make both known, one after the other. -/
theorem announceBoth (retells : world.Retells noun later known told) (called : world.IsCalled noun)
    (subOwned : world.Owns sub) (parentOwned : world.Owns parent) (apart : sub ≠ parent)
    {order : List (Id .kind)} (ordered : order = adjoin parent (adjoin sub known)) : ∃ later',
      ((announced noun known sub ++ announced noun known parent).mapM Coinage.create).perform
          later =
        (.ok (announcedConcepts known order sub ++ announcedConcepts known order parent), later') ∧
      world.Retells noun later' order told := by
  obtain ⟨between, created, retells⟩ := retells.announce called subOwned
  obtain ⟨after, created', retells⟩ := retells.announce called parentOwned
  have subPlace : announcedConcepts known (adjoin sub known) sub =
      announcedConcepts known order sub := by
    have grows : adjoin sub known <+: order := ordered ▸ prefix_adjoin
    rw [announcedConcepts, announcedConcepts, place_of_grows (mem_adjoin.mpr (.inr rfl)) grows]
  have parentNew : announced noun (adjoin sub known) parent = announced noun known parent := by
    simp [announced, mem_adjoin, Ne.symm apart]
  have parentPlace : announcedConcepts (adjoin sub known) order parent =
      announcedConcepts known order parent := by
    simp [announcedConcepts, mem_adjoin, Ne.symm apart]
  rw [← ordered] at created' retells
  rw [subPlace] at created
  rw [parentNew, parentPlace] at created'
  exact ⟨after, Edit.perform_mapM_append created created', retells⟩

/-- The coinage for one kind is not of the name of another. -/
theorem isNamed_of_announced (called : world.IsCalled noun) (known : List (Id .kind))
    (subOwned : world.Owns sub) (parentOwned : world.Owns parent) (apart : sub ≠ parent) :
    ∀ coinage ∈ announced noun known sub, coinage.isNamed (noun parent).plural = false := by
  rw [announced]
  split_ifs
  · nofun
  · refine List.forall_mem_singleton.mpr ?_
    have apart := called.apart sub parent subOwned parentOwned apart
    have other {name : Name} (own : name ∈ [(noun sub).singular, (noun sub).plural]) :
        name.same (noun parent).plural = false := by
      rw [← Bool.not_eq_true]
      intro same
      exact (apart name own _ (List.mem_cons_of_mem _ List.mem_cons_self)).1
        (Name.keys_eq_of_same same ▸ List.prefix_rfl)
    simp [Coinage.isNamed, Coinage.names, other]

/-- The kinds that a sentence makes are known then. -/
theorem mem_kinds_announcedConcepts {order : List (Id .kind)} {kind : Id .kind}
    (mem : kind ∈ Concept.kinds (announcedConcepts known order sub ++
      announcedConcepts known order parent)) :
    ∃ id ∈ [sub, parent], kind = place order id := by
  simp only [Concept.kinds, announcedConcepts, List.mem_filterMap, List.mem_append] at mem
  obtain ⟨concept, mem, same⟩ := mem
  rcases mem with mem | mem
  all_goals
    split_ifs at mem
    · cases mem
    · obtain rfl := List.mem_singleton.mp mem
      cases same
      simp

/-- One more edge is told. -/
theorem tell (retells : world.Retells noun later known told) (called : world.IsCalled noun)
    (hierarchy : world.IsHierarchy) (edge : world.JustBelow sub parent) (new : (sub, parent) ∉ told)
    (menu : String → Except ResourceError (List String)) :
    ∃ reading kinds later' known',
      later.understand ((noun sub).subkindLine (noun parent)) = .ok reading ∧
      reading.pattern.action = .declare .subkinds ∧
      (reading.perform ((noun sub).subkindLine (noun parent)) menu .subkinds).perform later =
        (.ok kinds, later') ∧
      (∀ kind ∈ kinds, ∃ id ∈ known', kind = place known' id) ∧
      world.Retells noun later' known' (told ++ [(sub, parent)]) := by
  have subOwned : world.Owns sub := lt_size_of_justBelow edge
  have parentOwned : world.Owns parent := hierarchy.lt_size edge
  have apart : sub ≠ parent := by
    rintro rfl
    exact hierarchy.acyclic sub (.single edge)
  -- both mentions are placed in the order that there is once the sentence has been told
  obtain ⟨order, ordered⟩ : ∃ order, order = adjoin parent (adjoin sub known) := ⟨_, rfl⟩
  have grows : adjoin sub known <+: order := ordered ▸ prefix_adjoin
  have within : ∀ id ∈ [sub, parent], id ∈ order := by simp [ordered, mem_adjoin]
  obtain ⟨subKnown, parentKnown⟩ : sub ∈ order ∧ parent ∈ order := by simpa using within
  obtain ⟨mention, mentions, stands⟩ :=
    retells.mentions called subOwned [] nofun (prefix_adjoin.trans grows)
  obtain ⟨mention', mentions', stands'⟩ := retells.mentions called parentOwned _
    (isNamed_of_announced called known subOwned parentOwned apart) (prefix_adjoin.trans grows)
  obtain ⟨number, number', understood⟩ := understand_subkindLine mentions mentions'
  obtain ⟨between, created, retells⟩ :=
    retells.announceBoth called subOwned parentOwned apart ordered
  obtain ⟨performed, retells⟩ := retells.addEdge hierarchy subKnown parentKnown edge new
  refine ⟨_, _, _, order, understood, rfl,
    Reading.perform_eq created ?_, fun kind mem => ?_, retells⟩
  · refine (Statement.perform_subkinds ?_ rfl ?_).trans performed
    · refine Statement.kind_eq_ok (stands' _ (announcedConcepts known order sub) [] ?_ ?_)
      · exact length_announcedConcepts
      · exact (List.append_nil _).symm
    · exact Statement.kind_eq_ok (stands _ [] (announcedConcepts known order parent) rfl rfl)
  · obtain ⟨id, mem, same⟩ := mem_kinds_announcedConcepts mem
    exact ⟨id, within id mem, same⟩

/-- A sentence that tells one more edge is accepted. -/
theorem learns {knowledge : Knowledge} (retells : world.Retells noun knowledge.world known told)
    (called : world.IsCalled noun) (hierarchy : world.IsHierarchy)
    (lacks : ∀ kind, world.Owns kind → shelf.Lacks (untokenize (noun kind).singular))
    (edge : world.JustBelow sub parent) (new : (sub, parent) ∉ told) :
    ∃ (learnt : Knowledge) (known' : List (Id .kind)),
      knowledge.Learns shelf ((noun sub).subkindLine (noun parent)) learnt ∧
      world.Retells noun learnt.world known' (told ++ [(sub, parent)]) := by
  obtain ⟨reading, kinds, later, known', understood, declares, performed, made, retells⟩ :=
    retells.tell called hierarchy edge new (shelf.storage.menu shelf.settings)
  have missing : ∀ kind ∈ kinds, shelf.Lacks (later.kindName kind) := by
    intro kind mem
    obtain ⟨id, told, rfl⟩ := made kind mem
    rw [kindName, (retells.names_place told).1]
    exact lacks id (retells.owned id told)
  obtain ⟨loaded, load⟩ := Knowledge.exists_load_of_lacks
    (Knowledge.enoughLoads shelf.storage) later knowledge.loaded missing
  refine ⟨⟨later, loaded⟩, known', ⟨trim_subkindLine, isRemark_subkindLine, reading, .subkinds,
    understood, declares, ?_⟩, retells⟩
  have stated : knowledge.perform shelf ((noun sub).subkindLine (noun parent)) reading .subkinds =
      .ok (kinds, ⟨later, knowledge.loaded⟩) := by
    rw [Knowledge.perform]
    simp only [performed]
  rw [Knowledge.state, stated]
  exact load

/-- Edges are told one after another. -/
theorem comesOf (called : world.IsCalled noun) (hierarchy : world.IsHierarchy)
    (lacks : ∀ kind, world.Owns kind → shelf.Lacks (untokenize (noun kind).singular))
    {knowledge : Knowledge} {lines : List String} (edges : List (Id .kind × Id .kind))
    (drawn : ∀ edge ∈ edges, world.JustBelow edge.1 edge.2) (nodup : (told ++ edges).Nodup)
    (comes : knowledge.ComesOf shelf lines)
    (retells : world.Retells noun knowledge.world known told) :
    ∃ (learnt : Knowledge) (known' : List (Id .kind)),
      learnt.ComesOf shelf
        (lines ++ edges.map fun edge => (noun edge.1).subkindLine (noun edge.2)) ∧
      world.Retells noun learnt.world known' (told ++ edges) := by
  induction edges generalizing knowledge lines known told with
  | nil => exact ⟨knowledge, known, by simpa using comes, (List.append_nil told).symm ▸ retells⟩
  | cons edge rest ih =>
    obtain ⟨here, others⟩ := List.forall_mem_cons.mp drawn
    have new : (edge.1, edge.2) ∉ told := fun mem =>
      (List.nodup_append.mp nodup).2.2 _ mem _ List.mem_cons_self rfl
    obtain ⟨next, known', learns, retells⟩ := retells.learns called hierarchy lacks here new
    rw [List.append_cons] at nodup ⊢
    rw [List.map_cons, List.append_cons]
    exact ih others nodup (.line comes learns) retells

end Retells

/-- The edges that have been told are those that there are then. -/
theorem Retells.perm_edges (retells : world.Retells noun later known told) (nodup : told.Nodup) :
    later.edges.Perm (told.map fun edge => (place known edge.1, place known edge.2)) := by
  refine (List.perm_ext_iff_of_nodup retells.taxonomy.nodup_edges ?_).mpr fun edge => ?_
  · refine nodup.map_on fun a mem b _ same => ?_
    obtain ⟨start, stop⟩ := retells.within a mem
    exact Prod.ext (place_inj start (congrArg Prod.fst same))
      (place_inj stop (congrArg Prod.snd same))
  · obtain ⟨sub, parent⟩ := edge
    rw [mem_edges, retells.edges]
    simp only [List.mem_map, Prod.mk.injEq]

end World

/-- What a taxonomy says can be told anew, sentence by sentence, and the world that comes of it says
the same. -/
theorem Session.replay_restate {session : Session} {noun : Id .kind → Noun}
    (taxonomy : session.world.IsPlainTaxonomy) (called : session.world.IsCalled noun)
    (lacks : ∀ kind, session.world.Owns kind →
      session.shelf.Lacks (untokenize (noun kind).singular)) :
    ∃ later, (Turn.replay session.world.restate).take session.reset = (.ok (), later) ∧
      later.transcript = session.world.restate ∧
      later.world.restate.Perm session.world.restate := by
  have hierarchy := taxonomy.hierarchy
  have drawn : ∀ edge ∈ session.world.edges, session.world.JustBelow edge.1 edge.2 :=
    fun edge => World.mem_edges.mp
  have lines : session.world.restate =
      session.world.edges.map fun edge => (noun edge.1).subkindLine (noun edge.2) := by
    rw [taxonomy.restate_eq]
    refine List.map_congr_left fun edge mem => ?_
    rw [World.edgeLine, World.kindPlural, World.kindPlural, Noun.subkindLine,
      called.plural _ (World.lt_size_of_justBelow (drawn edge mem)),
      called.plural _ (hierarchy.lt_size (drawn edge mem))]
  have nodup := taxonomy.nodup_edges
  obtain ⟨learnt, known, comes, retells⟩ := World.Retells.comesOf called hierarchy lacks
    session.world.edges drawn nodup .nothing World.retells_empty
  rw [List.nil_append, ← lines] at comes
  refine ⟨_, Turn.take_replay comes, rfl, ?_⟩
  change learnt.world.restate.Perm session.world.restate
  rw [lines, retells.taxonomy.restate_eq]
  refine ((retells.perm_edges nodup).map learnt.world.edgeLine).trans ?_
  rw [List.map_map]
  refine List.Perm.of_eq (List.map_congr_left fun edge mem => ?_)
  obtain ⟨start, stop⟩ := retells.within edge mem
  simp only [Function.comp_apply, World.edgeLine, World.kindPlural, Noun.subkindLine,
    (retells.names_place start).2, (retells.names_place stop).2]

namespace Household

/-- What several of each kind are called. -/
def words : List String := ["beings", "pets", "plants", "cats"]

theorem isPlain_of_mem_words : ∀ word ∈ words, Name.isPlain [.word word] = true := by
  decide +kernel

/-- A noun of one word. -/
def noun (singular plural : String) (mem : plural ∈ words)
    (small : Name.lowerFirst [.word plural] = [.word plural])
    (regular : Name.plural [.word singular] = .ok [.word plural] ∧
      Name.singular [.word plural] = .ok [.word singular]) : Noun :=
  ⟨[.word singular], [.word plural], isPlain_of_mem_words plural mem, small, regular.1, regular.2⟩

/-- The noun for each kind, in the order of the words. -/
def nouns (id : Id .kind) : Noun :=
  match id.index with
  | 0 => noun "being" "beings" (by decide) (by decide +kernel) (by decide +kernel)
  | 1 => noun "pet" "pets" (by decide) (by decide +kernel) (by decide +kernel)
  | 2 => noun "plant" "plants" (by decide) (by decide +kernel) (by decide +kernel)
  | _ => noun "cat" "cats" (by decide) (by decide +kernel) (by decide +kernel)

/-- A kind that is called by its noun, with nothing but edges. -/
def kind (id : Id .kind) (superkinds subkinds : List (Id .kind)) : Kind :=
  { Kind.named (nouns id).singular (nouns id).plural with
    superkinds := superkinds
    subkinds := subkinds }

/-- Pets and plants are beings. Cats are pets. -/
def world : World := { World.empty with
  kinds := #[kind ⟨0⟩ [] [⟨1⟩, ⟨2⟩], kind ⟨1⟩ [⟨0⟩] [⟨3⟩], kind ⟨2⟩ [⟨0⟩] [], kind ⟨3⟩ [⟨1⟩] []] }

theorem isPlainTaxonomy_world : world.IsPlainTaxonomy where
  hierarchy := World.isHierarchy_of_forall_kindIds (by decide) (by decide) (by decide)
  bare := by
    rintro ⟨_ | _ | _ | _ | i⟩ <;> exact ⟨rfl, rfl, rfl, rfl, rfl⟩
  adjectives := rfl
  verbs := rfl
  individuals := rfl
  untemplated := by
    rintro ⟨_ | _ | _ | _ | i⟩ <;> exact ⟨rfl, rfl⟩
  nodup := by
    rintro ⟨_ | _ | _ | _ | i⟩
    case zero => exact List.nodup_nil
    case succ.succ.succ.succ => exact List.nodup_nil
    all_goals exact List.nodup_singleton _
  regular kind owned := by
    have all : ∀ kind ∈ world.kindIds,
        (world.kind kind).singular.plural = .ok (world.kind kind).plural := by decide +kernel
    exact all kind (World.mem_kindIds_iff.mpr owned)
  expectations := rfl

theorem isCalled_world : world.IsCalled nouns where
  plural kind owned := by
    have all : ∀ kind ∈ world.kindIds, (world.kind kind).plural = (nouns kind).plural := by
      decide +kernel
    exact all kind (World.mem_kindIds_iff.mpr owned)
  apart a b owned owned' := by
    have all : ∀ a ∈ world.kindIds, ∀ b ∈ world.kindIds, a ≠ b → (nouns a).Apart (nouns b) := by
      decide +kernel
    exact all a (World.mem_kindIds_iff.mpr owned) b (World.mem_kindIds_iff.mpr owned')

/-- A session that knows this, where there are no files. -/
def session : Session := ⟨⟨.default, .empty⟩, ⟨world, []⟩, [], none, .ofSeed 1 defaultMaxSteps⟩

theorem lacks_session (kind : Id .kind) (owned : session.world.Owns kind) :
    session.shelf.Lacks (untokenize (nouns kind).singular) := by
  have all : ∀ kind ∈ world.kindIds, session.shelf.storage.read (session.shelf.settings.file
      (untokenize (nouns kind).singular) Settings.definitionExtension) =
      .error (.notFound (session.shelf.settings.file (untokenize (nouns kind).singular)
        Settings.definitionExtension)) := by
    decide +kernel
  exact ⟨_, all kind (World.mem_kindIds_iff.mpr owned)⟩

end Household

open Household

/-- What is said of a household can be told anew. -/
theorem Session.replay_restate_household : session.world.IsPlainTaxonomy ∧
    session.world.IsCalled nouns ∧
    (∀ kind, session.world.Owns kind → session.shelf.Lacks (untokenize (nouns kind).singular)) ∧
    session.world.restate =
      ["pets are kinds of beings", "plants are kinds of beings", "cats are kinds of pets"] ∧
    ∃ later, (Turn.replay session.world.restate).take session.reset = (.ok (), later) ∧
      later.transcript = session.world.restate ∧
      later.world.restate.Perm session.world.restate := by
  refine ⟨isPlainTaxonomy_world, isCalled_world, lacks_session, ?_,
    replay_restate isPlainTaxonomy_world isCalled_world lacks_session⟩
  exact isPlainTaxonomy_world.restate_eq.trans (by decide +kernel)

end Worldsmith
