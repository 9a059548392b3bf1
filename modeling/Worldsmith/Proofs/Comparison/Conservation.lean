import Worldsmith.Proofs.Comparison.Transfer
import Worldsmith.Proofs.Model.Relations
import Worldsmith.Proofs.Statement.Introduction
import Worldsmith.Proofs.World.Signatures

/-!
# What can exist all the same

Two declarations make no difference to what can exist. One gives members of a kind a property of a
new name: whatever could be imagined before can be imagined after it. The other introduces the first
individual of a world: nothing is wrong with it just if something of the same kind and with the same
modifiers could be imagined before, unless the modifiers name a kind that the individual's kind is
not below.

## Main definitions

* `Blueprint.Embodies` — a world is another with one individual, declared as something requested
  would be.

## Main statements

* `Blueprint.satisfiable_addProperty` — requests stay satisfiable when there is a property of a new
  name.
* `Blueprint.satisfiable_introduction_iff` — something can be imagined just if an individual of that
  sort can be introduced.
-/

namespace Worldsmith

namespace World.IsReadable

variable {world world' : World}

/-- Names can be read as before if that of the new property can. -/
theorem addProperty (readable : world.IsReadable) {owner : Id .kind} {name : Name}
    {domain : PropertyDomain} (unused : world.findProperty? owner name = none)
    (predicate : IsPredicate (untokenize name)) :
    (world.addProperty owner name domain).2.IsReadable := by
  refine ⟨readable.named.addProperty, fun id own => ?_⟩
  rw [property_addProperty_of_none unused]
  split_ifs with last
  · exact predicate
  · refine readable.property id ?_
    by_contra other
    exact last (eq_of_owns_addProperty unused own other)

/-- Without individuals there are no names but those that a world that concurs has. -/
theorem of_concurs (readable : world'.IsReadable) (concurs : world.Concurs world')
    (nobody : world.individuals = #[]) : world.IsReadable := by
  refine ⟨concurs.isLettered nobody readable.named, fun id own => ?_⟩
  rw [World.property, ← concurs.properties]
  exact readable.property id (lt_of_lt_of_eq own (congrArg Array.size concurs.properties).symm)

end World.IsReadable

namespace Blueprint

variable {world world' : World}

/-- The beings and relations of the same request to two worlds, of which one underlies the other. -/
theorem matches_ofRequest (underlies : world.Underlies world')
    (same : world'.individuals = world.individuals) (request : Request) :
    (ofRequest world request).Matches (ofRequest world' request) := by
  have individual (id : Id .individual) : world'.individual id = world.individual id := by
    rw [World.individual, World.individual, same]
  have ids : world'.individualIds = world.individualIds := by
    rw [World.individualIds, World.individualIds, same]
  have permanent := Together.foldl (f := addPermanent (work (enoughFuel world)))
    (g := addPermanent (work (enoughFuel world))) world.individualIds (matches_ofWorld underlies)
    fun c c' together id _ => together.matched.addPermanent (enoughFuel world) (by
      rw [together.grows.world, together.grows'.world]
      exact individual id)
  have requested := permanent.trans (permanent.matched.addRequested request request.count)
  have related := requested.trans requested.matched.addRelations
  rw [ofRequest, ofRequest, underlies.enoughFuel_eq, ids]
  exact related.matched

/-- What the propositions of a request say can be read where names can. -/
theorem legible_ofRequest (hierarchy : world.IsHierarchy) (readable : world.IsReadable)
    (request : Request) : (ofRequest world request).Legible := by
  have distinct := (related_ofRequest hierarchy readable.named request).distinct
  have same := distinct.world_eq
  exact ⟨same.symm ▸ readable, same.symm ▸ distinct⟩

/-! ## Properties of new names -/

/-- Requests stay satisfiable when there is a property of a new name. -/
theorem satisfiable_addProperty (whole : world.IsWhole) (readable : world.IsReadable)
    {owner : Id .kind} (owned : world.Owns owner) {name : Name} {domain : PropertyDomain}
    (fresh : domain.IsFresh) (unused : world.findProperty? owner name = none)
    (new : ∀ id : Id .property, world.Owns id →
      untokenize (world.property id).name ≠ untokenize name)
    (predicate : IsPredicate (untokenize name)) (request : Request)
    (satisfiable : (ofRequest world request).problem.Satisfiable) :
    (ofRequest (world.addProperty owner name domain).2 request).problem.Satisfiable := by
  have underlies := World.underlies_addProperty whole owned fresh unused new
  have hierarchy := whole.isHierarchy
  have individuals : (world.addProperty owner name domain).2.individuals = world.individuals := by
    rw [World.addProperty_of_none unused]
    rfl
  exact (matches_ofRequest underlies individuals request).satisfiable
    (legible_ofRequest hierarchy readable request)
    (legible_ofRequest (underlies.isHierarchy hierarchy) (readable.addProperty unused predicate)
      request) satisfiable

end Blueprint

namespace Clowder

open Blueprint

def color : Name := [.word "color"]

def colors : PropertyDomain := .menu "colors.txt" ["black", "white"] []

/-- Nothing has a property yet. -/
theorem unused_color : world.properties.size = 0 ∧ world.findProperty? cat color = none := by
  decide +kernel

theorem isReadable_world : world.IsReadable where
  named := isClowder_world.isLettered
  property id own := by simp [World.Owns, World.count, unused_color.1] at own

/-- A cat that chases itself can be imagined. -/
theorem satisfiable_chasing : (ofRequest world ⟨cat, [], 1⟩).problem.Satisfiable := by
  have solved := IsClowder.solve_chasing isClowder_world.consists
  exact ⟨_, (complete_ofRequest world _).1.valid.built.scoped.satisfiedBy_of_solve solved |>.1⟩

end Clowder

namespace Blueprint

/-- A cat can be imagined just as well when cats have a color. -/
theorem satisfiable_addProperty_clowder : Clowder.world.IsWhole ∧ Clowder.world.IsReadable ∧
    Clowder.world.Owns Clowder.cat ∧ Clowder.colors.IsFresh ∧
    Clowder.world.findProperty? Clowder.cat Clowder.color = none ∧
    IsPredicate (untokenize Clowder.color) ∧
    (ofRequest Clowder.world ⟨Clowder.cat, [], 1⟩).problem.Satisfiable ∧
    (ofRequest (Clowder.world.addProperty Clowder.cat Clowder.color Clowder.colors).2
      ⟨Clowder.cat, [], 1⟩).problem.Satisfiable := by
  have whole := Clowder.reachable_world.isWhole
  obtain ⟨nothing, unused⟩ := Clowder.unused_color
  have owned : Clowder.world.Owns Clowder.cat := by
    simp [World.Owns, World.count, Clowder.isClowder_world.kinds, Clowder.cat]
  have fresh : Clowder.colors.IsFresh := ⟨by decide, rfl⟩
  have predicate : IsPredicate (untokenize Clowder.color) := by
    unfold IsPredicate
    decide +kernel
  exact ⟨whole, Clowder.isReadable_world, owned, fresh, unused, predicate,
    Clowder.satisfiable_chasing,
    satisfiable_addProperty whole Clowder.isReadable_world owned fresh unused
      (fun id own => by simp [World.Owns, World.count, nothing] at own) predicate _
      Clowder.satisfiable_chasing⟩

/-! ## Individuals that are introduced -/

section Introduction

variable {world : World} {lexicon : Lexicon Concept} {name : Name} {kind : Id .kind}
  {modifiers : List Trait} {request : Request}

/-- Kinds among the modifiers add nothing if the declared kind is at or below them. -/
theorem declaredKinds_eq_singleton (hierarchy : world.IsHierarchy)
    (above : ∀ other, ⟨.kind other, true⟩ ∈ modifiers → world.Below kind other) :
    declaredKinds world [kind] modifiers = [kind] := by
  have lowest (declared : List (Id .kind))
      (h : kind ∈ declared ∧ ∀ other ∈ declared, world.Below kind other) :
      world.mostSpecific declared = [kind] := by
    refine List.perm_singleton.mp ((List.perm_ext_iff_of_nodup
      (World.nodup_mostSpecific world declared) (List.nodup_singleton kind)).mpr fun other => ?_)
    rw [World.mem_mostSpecific_iff hierarchy, List.mem_singleton]
    constructor
    · exact fun ⟨among, least⟩ => (least kind h.1 (h.2 other among)).symm
    · rintro rfl
      exact ⟨h.1, fun other among below => hierarchy.below_antisymm below (h.2 other among)⟩
  unfold declaredKinds
  refine lowest _ ?_
  have start : kind ∈ [kind] ∧ ∀ other ∈ [kind], world.Below kind other :=
    ⟨List.mem_singleton_self kind, fun _ mem => List.mem_singleton.mp mem ▸ .refl⟩
  generalize [kind] = kinds at start ⊢
  induction modifiers generalizing kinds with
  | nil => exact start
  | cons trait rest ih =>
    refine ih (fun other mem => above other (List.mem_cons_of_mem _ mem)) _ ?_
    dsimp only
    split
    case h_1 other quality positive =>
      have below := above other (List.mem_cons.mpr (.inl (by rw [← quality, ← positive])))
      split_ifs
      · exact start
      · refine ⟨List.mem_append_left _ start.1, fun x among => ?_⟩
        rcases List.mem_append.mp among with among | among
        · exact start.2 x among
        · rwa [List.mem_singleton.mp among]
    · exact start

/-- Whether a world is another with one individual, the first, that is of just the kinds and has
just the traits that something requested would be declared to have. -/
structure Embodies (world later : World) (kind : Id .kind) (modifiers : List Trait) : Prop where
  concurs : world.Concurs later
  nobody : world.individuals = #[]
  one : later.individuals.size = 1
  kinds : (later.individual ⟨0⟩).kinds = declaredKinds world [kind] modifiers
  modifiers : ∀ trait, trait ∈ (later.individual ⟨0⟩).modifiers ↔ trait ∈ modifiers
  bare : (later.individual ⟨0⟩).properties = []

/-- The first individual, if its kind is at or below all kinds among its traits. -/
theorem embodies_introduce (hierarchy : world.IsHierarchy) (nobody : world.individuals = #[])
    (above : ∀ other, ⟨.kind other, true⟩ ∈ modifiers → world.Below kind other) :
    Embodies world (world.introduce lexicon name kind modifiers) kind modifiers := by
  have individuals : (world.introduce lexicon name kind modifiers).individuals =
      #[⟨name, [kind], World.adjoinAll modifiers [], []⟩] := by
    rw [World.individuals_introduce, nobody]
    rfl
  have only : (world.introduce lexicon name kind modifiers).individual ⟨0⟩ =
      ⟨name, [kind], World.adjoinAll modifiers [], []⟩ := by
    simp [World.individual, individuals, Array.getD_eq_getD_getElem?]
  refine ⟨World.concurs_introduce, nobody, ?_, ?_, fun trait => ?_, ?_⟩
  · rw [individuals]
    rfl
  · rw [only, declaredKinds_eq_singleton hierarchy above]
  · rw [only, World.mem_adjoinAll]
    simp
  · rw [only]

namespace Embodies

variable {later : World} (h : Embodies world later kind modifiers)
include h

/-- No values are stated on either side. -/
theorem properties_eq_nil (individual : Id .individual) :
    (world.individual individual).properties = [] ∧
      (later.individual individual).properties = [] := by
  constructor
  · simp [World.individual, h.nobody, Array.getD_eq_getD_getElem?]
    rfl
  · obtain ⟨_ | i⟩ := individual
    · exact h.bare
    · have outside : later.individuals.size ≤ i + 1 := by
        rw [h.one]
        omega
      rw [World.individual, Array.getD_eq_getD_getElem?, Array.getElem?_eq_none outside]
      rfl

theorem underlies (listed : world.ListsProperties) :
    world.Underlies later ∧ later.Underlies world := by
  have forth := h.concurs.underlies listed fun individual => (h.properties_eq_nil individual).1
  exact ⟨forth, h.concurs.symm.underlies forth.listed
    fun individual => (h.properties_eq_nil individual).2⟩

theorem ofRequest_eq : ∃ requested, ofRequest world ⟨kind, modifiers, 1⟩ = addRelations
    { (addBeing (work (enoughFuel world)) [kind] modifiers none 0 (ofWorld world)).2 with
      requested := requested } := by
  rw [ofRequest, World.individualIds, h.nobody]
  exact ⟨_, rfl⟩

theorem ofRequest_later_eq (count : request.count = 0) : ofRequest later request =
    (addPermanent (work (enoughFuel later)) (ofWorld later) ⟨0⟩).addRelations := by
  rw [ofRequest, World.individualIds, h.one, count]
  rfl

/-- What is requested can exist just if the individual can. -/
theorem satisfiable_iff (whole : world.IsWhole) (readable : later.IsReadable)
    (count : request.count = 0) :
    (ofRequest world ⟨kind, modifiers, 1⟩).problem.Satisfiable ↔
      (ofRequest later request).problem.Satisfiable := by
  obtain ⟨forth, back⟩ := h.underlies whole.properties
  have hierarchy := whole.isHierarchy
  have legible := legible_ofRequest hierarchy (readable.of_concurs h.concurs h.nobody)
    ⟨kind, modifiers, 1⟩
  have legible' := legible_ofRequest (forth.isHierarchy hierarchy) readable request
  have added := (matches_ofWorld forth).addAsPermanent (enoughFuel world) kind modifiers ⟨0⟩
    h.kinds (fun trait => (h.modifiers trait).mp) h.bare
  have removed := (matches_ofWorld back).addAsRequested (enoughFuel world) kind modifiers ⟨0⟩
    h.kinds (fun trait => (h.modifiers trait).mpr) h.bare
  obtain ⟨requested, left⟩ := h.ofRequest_eq
  rw [left] at legible ⊢
  rw [h.ofRequest_later_eq count, forth.enoughFuel_eq] at legible' ⊢
  generalize (addBeing (work (enoughFuel world)) [kind] modifiers none 0 (ofWorld world)).2 = c
    at added removed legible ⊢
  generalize addPermanent (work (enoughFuel world)) (ofWorld later) ⟨0⟩ = c'
    at added removed legible' ⊢
  constructor
  · have together := added.matched.setRequested requested c'.requested
    exact together.matched.addRelations.matched.satisfiable legible legible'
  · have together := removed.matched.setRequested c'.requested requested
    exact together.matched.addRelations.matched.satisfiable legible' legible

end Embodies

/-- What is said of a new name can be the case just if something of that sort could be imagined
before. -/
theorem satisfiable_introduction_iff {later : World} {reading : Reading} {line : String}
    {menu : String → Except ResourceError (List String)} {made : List (Id .kind)}
    (whole : world.IsWhole) (nobody : world.individuals = #[])
    (introduces : reading.Introduces name kind modifiers)
    (told : (reading.perform line menu .membership).perform world = (.ok made, later))
    (readable : later.IsReadable)
    (above : ∀ other, ⟨.kind other, true⟩ ∈ modifiers → world.Below kind other)
    (count : request.count = 0) :
    (ofRequest world ⟨kind, modifiers, 1⟩).problem.Satisfiable ↔
      (ofRequest later request).problem.Satisfiable := by
  obtain ⟨lexicon, rfl⟩ := introduces.leads line menu world rfl made later told
  exact (embodies_introduce whole.isHierarchy nobody above).satisfiable_iff whole readable count

end Introduction

end Blueprint

namespace Clowder

open Blueprint

/-- A clowder in which one of the cats has a name. -/
def namedWorld : World := (world.tell? noMenu "Tom is a cat").getD .empty

/-- The line is read as introducing a cat, and does so. -/
theorem told_namedWorld :
    (((world.understand "Tom is a cat").toOption.map fun reading =>
        (reading.coinages, reading.pattern.action)) =
          some ([.individual [.word "Tom"]], .declare .membership) ∧
      ((world.understand "Tom is a cat").toOption.bind fun reading =>
        (reading.noun 0).toOption.map (·.head)) = some (.coined 0) ∧
      ((world.understand "Tom is a cat").toOption.bind fun reading =>
        (reading.noun 1).toOption.map fun phrase => (phrase.head, phrase.modifiers)) =
          some (.known (.kind cat), [])) ∧
    (world.tell? noMenu "Tom is a cat").isSome = true ∧
    (namedWorld.kinds.size = 1 ∧ namedWorld.adjectives.size = 0 ∧ namedWorld.verbs.size = 1 ∧
      namedWorld.individuals.size = 1 ∧ namedWorld.properties.size = 0) ∧
    namedWorld.conceptName (.kind cat) = [.word "cat"] ∧
    namedWorld.conceptName (.verb chase) = [.word "chase"] ∧
    namedWorld.conceptName (.individual ⟨0⟩) = [.word "Tom"] := by
  decide +kernel

theorem isReadable_namedWorld : namedWorld.IsReadable := by
  obtain ⟨-, -, ⟨kinds, adjectives, verbs, individuals, nothing⟩, cat_name, chase_name, tom_name⟩ :=
    told_namedWorld
  refine ⟨World.isLettered_of_concepts [.kind cat, .verb chase, .individual ⟨0⟩]
    (fun concept held => ?_) ?_ ?_, fun id own => by simp [World.Owns, World.count, nothing] at own⟩
  · rcases concept with ⟨⟨i⟩⟩ | ⟨⟨i⟩⟩ | ⟨⟨i⟩⟩ | ⟨⟨i⟩⟩
    all_goals simp_all [World.Holds, cat, chase]
  · simp only [List.forall_mem_cons, cat_name, chase_name, tom_name]
    decide
  · simp only [List.map_cons, List.map_nil, cat_name, chase_name, tom_name]
    decide

end Clowder

/-- Tom can be there, since a cat can be imagined. -/
theorem Blueprint.satisfiable_introduction_clowder : ∃ (reading : Reading) (made : List (Id .kind)),
    Clowder.world.IsWhole ∧ Clowder.world.individuals = #[] ∧
    reading.Introduces [.word "Tom"] Clowder.cat [] ∧
    (reading.perform "Tom is a cat" Clowder.noMenu .membership).perform Clowder.world =
      (.ok made, Clowder.namedWorld) ∧ Clowder.namedWorld.IsReadable ∧
    ((ofRequest Clowder.world ⟨Clowder.cat, [], 1⟩).problem.Satisfiable ↔
      (ofRequest Clowder.namedWorld ⟨Clowder.cat, [], 0⟩).problem.Satisfiable) := by
  have whole := Clowder.reachable_world.isWhole
  have nobody : Clowder.world.individuals = #[] :=
    Array.size_eq_zero_iff.mp Clowder.isClowder_world.individuals
  obtain ⟨⟨read, subject, object⟩, isTold, -⟩ := Clowder.told_namedWorld
  obtain ⟨later, told⟩ := Option.isSome_iff_exists.mp isTold
  obtain rfl : Clowder.namedWorld = later := by rw [Clowder.namedWorld, told, Option.getD_some]
  have ok {α : Type} {result : Except Error α} {a : α} (some : result.toOption = some a) :
      result = .ok a := by
    cases result <;> cases some
    rfl
  cases understood : Clowder.world.understand "Tom is a cat" with
  | error error =>
    rw [understood] at read
    cases read
  | ok reading =>
    rw [understood] at read subject object
    obtain ⟨coinages, declares⟩ := Prod.mk.inj (Option.some.inj read)
    have introduces : reading.Introduces [.word "Tom"] Clowder.cat [] := by
      obtain ⟨who, first, coined⟩ := Option.map_eq_some_iff.mp subject
      obtain ⟨what, second, known⟩ := Option.map_eq_some_iff.mp object
      obtain ⟨head, bare⟩ := Prod.mk.inj known
      exact ⟨coinages, ⟨who, ok first, coined⟩, what, ok second, head, bare ▸ .nil⟩
    simp only [World.tell?, understood, declares] at told
    split at told
    case h_2 => cases told
    case h_1 made _ performed =>
      rw [Option.some.inj told] at performed
      have readable := Clowder.isReadable_namedWorld
      exact ⟨reading, made, whole, nobody, introduces, performed, readable,
        satisfiable_introduction_iff whole nobody introduces performed readable (by simp) rfl⟩

end Worldsmith
