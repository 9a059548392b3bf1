import Worldsmith.Proofs.Blueprint.Table
import Worldsmith.Proofs.Model.Relations

/-!
# What propositions are about

Propositions go by their names, which are put together of the names of beings and concepts. Where
concepts are named by words of letters the name of a proposition tells whom it is about and what it
says of them, save that a symmetric relation has one proposition for both orders of a pair. So a
model that lists one relation for each proposition that holds lists each relation once.

## Main definitions

* `World.Coincide` — a verb and a pair of beings make the same relation as another verb and pair.
* `Blueprint.IsUnambiguous` — propositions can be told apart by what they are about.
* `Model.ListsOnce` — each relation that holds is listed once.

## Main statements

* `Blueprint.unambiguous_ofRequest` — the propositions of a request can be told apart, and each
  relation that holds in a model of it is listed once.
-/

namespace Worldsmith

/-! ## Names of propositions -/

namespace Problem

variable {predicate predicate' x x' : String}

/-- What stands in front of the brackets and what comes after them are told by the whole. -/
theorem bracket_inj {rest rest' : String} (outer : IsPredicate predicate)
    (outer' : IsPredicate predicate')
    (same : predicate ++ ("(" ++ rest) = predicate' ++ ("(" ++ rest')) :
    predicate = predicate' ∧ rest = rest' := by
  have lists := congrArg String.toList same
  simp only [String.toList_append] at lists
  obtain ⟨predicates, rests⟩ := append_inj_of_head (p := (· == '(')) lists
    (fun c hc => beq_eq_false_iff_ne.mpr fun is => outer (is ▸ hc))
    (fun c hc => beq_eq_false_iff_ne.mpr fun is => outer' (is ▸ hc)) (by simp) (by simp)
  exact ⟨String.toList_inj.mp predicates, String.toList_inj.mp (List.append_cancel_left rests)⟩

theorem unaryName_inj (outer : IsPredicate predicate) (outer' : IsPredicate predicate')
    (same : unaryName predicate x = unaryName predicate' x') : predicate = predicate' ∧ x = x' := by
  unfold unaryName at same
  simp only [String.append_assoc] at same
  obtain ⟨predicates, rests⟩ := bracket_inj outer outer' same
  exact ⟨predicates, String.append_left_inj ")" |>.mp rests⟩

/-- There is no sign in the name of a predicate that holds of one thing. -/
theorem ne_of_mem_unaryName (outer : IsArgument predicate) (inner : IsArgument x) :
    ∀ c ∈ (unaryName predicate x).toList, c ≠ ',' ∧ c ≠ '=' := by
  intro c mem
  simp only [unaryName, String.toList_append, List.mem_append] at mem
  rcases mem with ((mem | mem) | mem) | mem
  · exact outer c mem
  · obtain rfl : c = '(' := by simpa using mem
    decide
  · exact inner c mem
  · obtain rfl : c = ')' := by simpa using mem
    decide

/-- A membership and a relation of one name would be named after one concept. -/
theorem predicate_eq_of_unaryName {y z : String} {symmetric : Bool} (outer : IsPredicate predicate)
    (outer' : IsPredicate predicate')
    (same : unaryName predicate x = binaryName predicate' y z symmetric) :
    predicate = predicate' := by
  obtain ⟨first, second, name, -⟩ := binaryName_eq predicate' y z symmetric
  rw [name] at same
  unfold unaryName at same
  simp only [String.append_assoc] at same
  exact (bracket_inj outer outer' same).1

end Problem

/-! ## Qualities as concepts -/

def Quality.concept : Quality → Concept
  | .kind id => .kind id
  | .adjective id => .adjective id

theorem Quality.concept_inj {q q' : Quality} (same : q.concept = q'.concept) : q = q' := by
  cases q <;> cases q' <;> cases same <;> rfl

namespace World

variable {world : World} {q : Quality}

theorem holds_concept_iff : world.Holds q.concept ↔ world.Has q := by cases q <;> rfl

theorem qualityName_eq (world : World) (q : Quality) :
    world.qualityName q = untokenize (world.conceptName q.concept) := by cases q <;> rfl

/-- Whether a verb and a pair of beings make the same relation as another verb and pair: they are
the same, or the verb is symmetric and the pair is the other way round. -/
def Coincide (world : World) (key key' : Id .verb × Nat × Nat) : Prop :=
  key.1 = key'.1 ∧
    (key.2 = key'.2 ∨ (world.verb key.1).symmetric = true ∧ key.2 = key'.2.swap)

end World

namespace Blueprint

/-- The proposition that a being has a quality, if the problem has it. -/
def membership? (b : Blueprint) (i : Nat) : Quality → Option Proposition
  | .kind kind => b.kindProposition? i kind
  | .adjective adjective => b.adjectiveProposition? i adjective

/-- Whether propositions can be told apart by what they are about. -/
structure IsUnambiguous (b : Blueprint) : Prop where
  beings : ∀ i < b.beings.size, ∀ j < b.beings.size, (b.being i).name = (b.being j).name → i = j
  memberships : ∀ i < b.beings.size, ∀ j < b.beings.size, ∀ q q' p, b.world.Has q →
    b.world.Has q' → b.membership? i q = some p → b.membership? j q' = some p → i = j ∧ q = q'
  tabulated : b.Tabulated (b.relations.toList.map Relation.key)
  relations : ∀ r ∈ b.relations.toList, ∀ r' ∈ b.relations.toList,
    r.proposition = r'.proposition ↔ b.world.Coincide r.key r'.key
  apart : ∀ i < b.beings.size, ∀ q, b.world.Has q → ∀ r ∈ b.relations.toList,
    b.membership? i q ≠ some r.proposition

variable {world : World} {b : Blueprint} {i j : Nat} {q q' : Quality} {p p' : Proposition}
  {verb verb' : Id .verb} {s o s' o' : Nat}

theorem name?_of_membership? (known : b.membership? i q = some p) :
    b.problem.name? p = some (b.qualityName i q) := by
  cases q <;> exact Problem.find?_eq_some_iff.mp known

namespace Related

variable (related : Related world b) (named : world.IsLettered)
include related named

theorem isPredicate_qualityName (q : Quality) : IsPredicate (b.world.qualityName q) := by
  rw [related.distinct.world_eq, World.qualityName_eq]
  exact isPredicate_of_isNameChar (named.isNameChar q.concept)

theorem isPredicate_verbName (verb : Id .verb) : IsPredicate (b.world.verbName verb) := by
  rw [related.distinct.world_eq]
  exact isPredicate_of_isNameChar (named.isNameChar (.verb verb))

theorem eq_of_membership? (hi : i < b.beings.size) (hj : j < b.beings.size) (has : b.world.Has q)
    (has' : b.world.Has q') (known : b.membership? i q = some p)
    (known' : b.membership? j q' = some p) : i = j ∧ q = q' := by
  have same := Option.some.inj
    ((name?_of_membership? known).symm.trans (name?_of_membership? known'))
  obtain ⟨qualities, beings⟩ := Problem.unaryName_inj (related.isPredicate_qualityName named q)
    (related.isPredicate_qualityName named q') same
  rw [related.distinct.world_eq] at has has'
  rw [related.distinct.world_eq, World.qualityName_eq, World.qualityName_eq] at qualities
  refine ⟨related.distinct.eq_of_name i hi j hj beings, Quality.concept_inj ?_⟩
  exact named.eq_of_name _ _ (World.holds_concept_iff.mpr has) (World.holds_concept_iff.mpr has')
    qualities

/-- Two pairs have one proposition just if they make the same relation. -/
theorem relation?_eq_iff (known : b.relation? verb s o = some p)
    (known' : b.relation? verb' s' o' = some p') :
    p = p' ↔ b.world.Coincide (verb, s, o) (verb', s', o') := by
  constructor
  · rintro rfl
    obtain ⟨verbs, ⟨rfl, rfl⟩ | ⟨symmetric, rfl, rfl⟩⟩ := related.eq_of_relation? named known known'
    · exact ⟨verbs, .inl rfl⟩
    · exact ⟨verbs, .inr ⟨symmetric, rfl⟩⟩
  · rintro ⟨same, pairs | ⟨symmetric, pairs⟩⟩
    · cases same
      cases pairs
      exact Option.some.inj (known.symm.trans known')
    · cases same
      cases pairs
      have name := (related.indexed known).name?
      have name' := (related.indexed known').name?
      have symmetric : (b.world.verb verb).symmetric = true := symmetric
      rw [relationName, symmetric, Problem.binaryName_comm, ← symmetric] at name
      exact Problem.eq_of_name? name name'

/-- No proposition is about one being and about two. -/
theorem membership?_ne (has : b.world.Has q) (known : b.relation? verb s o = some p) :
    b.membership? i q ≠ some p := by
  intro member
  have links := related.indexed known
  have same := Option.some.inj ((name?_of_membership? member).symm.trans links.name?)
  have names := Problem.predicate_eq_of_unaryName (related.isPredicate_qualityName named q)
    (related.isPredicate_verbName named verb) same
  obtain ⟨_, _, signed, -⟩ := links.could
  rw [related.distinct.world_eq] at has signed names
  rw [World.qualityName_eq] at names
  have concepts : q.concept = .verb verb := named.eq_of_name _ _ (World.holds_concept_iff.mpr has)
    (World.lt_size_of_subjectKind signed) names
  cases q <;> cases concepts

theorem isUnambiguous {keys : List (Id .verb × Nat × Nat)} (tabulated : b.Tabulated keys) :
    b.IsUnambiguous where
  beings := related.distinct.eq_of_name
  memberships _ hi _ hj _ _ _ := related.eq_of_membership? named hi hj
  tabulated := tabulated.keys_eq ▸ tabulated
  relations r mem r' mem' := related.relation?_eq_iff named ((tabulated.mem_iff r).mp mem)
    ((tabulated.mem_iff r').mp mem')
  apart _ _ _ has r mem := related.membership?_ne named has ((tabulated.mem_iff r).mp mem)

end Related

end Blueprint

/-! ## Relations of a model -/

namespace Model

variable {m : Model} {seen : Std.HashSet Proposition} {rs : List Relation} {r : Relation}

theorem firstOfEach_sublist (seen : Std.HashSet Proposition) (rs : List Relation) :
    (firstOfEach seen rs).Sublist rs := by
  fun_induction firstOfEach seen rs with
  | case1 => exact .slnil
  | case2 seen r rest known ih => exact ih.cons r
  | case3 seen r rest new ih => exact ih.cons_cons r

/-- Only propositions that have not been seen are kept, and each once. -/
theorem nodup_firstOfEach (seen : Std.HashSet Proposition) (rs : List Relation) :
    ((firstOfEach seen rs).map Relation.proposition).Nodup ∧
      ∀ r ∈ firstOfEach seen rs, r.proposition ∉ seen := by
  fun_induction firstOfEach seen rs with
  | case1 => simp
  | case2 seen r rest known ih => exact ih
  | case3 seen r rest new ih =>
    obtain ⟨nodup, fresh⟩ := ih
    simp only [Std.HashSet.mem_insert, not_or] at fresh
    refine ⟨List.nodup_cons.mpr ⟨fun mem => ?_, nodup⟩, ?_⟩
    · obtain ⟨r', kept, same⟩ := List.mem_map.mp mem
      exact (fresh r' kept).1 (by simp [same])
    · exact List.forall_mem_cons.mpr ⟨by simpa using new, fun r' kept => (fresh r' kept).2⟩

theorem exists_mem_firstOfEach (mem : r ∈ rs) (new : r.proposition ∉ seen) :
    ∃ r' ∈ firstOfEach seen rs, r'.proposition = r.proposition := by
  fun_induction firstOfEach seen rs with
  | case1 => cases mem
  | case2 seen first rest known ih =>
    rcases List.mem_cons.mp mem with rfl | mem
    · exact absurd (Std.HashSet.mem_iff_contains.mpr known) new
    · exact ih mem new
  | case3 seen first rest fresh ih =>
    by_cases same : first.proposition = r.proposition
    · exact ⟨first, List.mem_cons_self, same⟩
    · rcases List.mem_cons.mp mem with rfl | mem
      · exact absurd rfl same
      · obtain ⟨r', kept, same'⟩ := ih mem (by simp [Std.HashSet.mem_insert, same, new])
        exact ⟨r', List.mem_cons_of_mem _ kept, same'⟩

/-- Whether each relation that holds is listed once, and no other is. -/
structure ListsOnce (m : Model) : Prop where
  nodup : m.relationships.Nodup
  related : ∀ r ∈ m.relationships, m.related r.verb r.subject r.object = true
  existsUnique : ∀ verb s o, m.related verb s o = true →
    ∃! r, r ∈ m.relationships ∧ m.world.Coincide r.key (verb, s, o)

theorem nodup_relationships (m : Model) : (m.relationships.map Relation.proposition).Nodup :=
  (nodup_firstOfEach _ _).1

theorem of_mem_relationships (mem : r ∈ m.relationships) :
    r ∈ m.blueprint.relations.toList ∧ m.solution.holds r.proposition = true :=
  List.mem_filter.mp ((firstOfEach_sublist _ _).subset mem)

/-- For each relation that holds there is one of its proposition in the list. -/
theorem exists_mem_relationships (mem : r ∈ m.blueprint.relations.toList)
    (holds : m.solution.holds r.proposition = true) :
    ∃ r' ∈ m.relationships, r'.proposition = r.proposition :=
  exists_mem_firstOfEach (List.mem_filter.mpr ⟨mem, holds⟩) Std.HashSet.not_mem_empty

theorem listsOnce (unambiguous : m.blueprint.IsUnambiguous) : m.ListsOnce := by
  have lookup := unambiguous.tabulated.mem_iff
  refine ⟨m.nodup_relationships.of_map _, fun r mem => ?_, fun verb s o isRelated => ?_⟩
  · obtain ⟨known, holds⟩ := of_mem_relationships mem
    exact related_iff.mpr ⟨r.proposition, (lookup r).mp known, holds⟩
  · obtain ⟨p, known, holds⟩ := related_iff.mp isRelated
    have recorded := (lookup ⟨verb, s, o, p⟩).mpr known
    have coincide {r : Relation} (mem : r ∈ m.relationships) :
        r.proposition = p ↔ m.world.Coincide r.key (verb, s, o) :=
      unambiguous.relations r (of_mem_relationships mem).1 _ recorded
    obtain ⟨r, mem, same⟩ := exists_mem_relationships recorded holds
    refine ⟨r, ⟨mem, (coincide mem).mp same⟩, ?_⟩
    rintro r' ⟨mem', coincides⟩
    exact List.inj_on_of_nodup_map m.nodup_relationships mem' mem
      (((coincide mem').mpr coincides).trans same.symm)

end Model

/-- In the blueprint of a request propositions can be told apart by what they are about, and a
model of it lists each relation that holds once. -/
theorem Blueprint.unambiguous_ofRequest {world : World} (hierarchy : world.IsHierarchy)
    (named : world.IsLettered) (request : Request) :
    (ofRequest world request).IsUnambiguous ∧
      ∀ solution, Model.ListsOnce ⟨ofRequest world request, solution⟩ := by
  obtain ⟨keys, tabulated⟩ := tabulated_ofRequest world request
  have unambiguous := (related_ofRequest hierarchy named request).isUnambiguous named tabulated
  exact ⟨unambiguous, fun solution => Model.listsOnce unambiguous⟩

namespace Parlor

open Blueprint

def cat : Id .kind := ⟨0⟩

def meet : Id .verb := ⟨0⟩

/-- Cats can meet each other. -/
def world : World :=
  { World.empty with
    kinds := #[.named [.word "cat"] [.word "cats"]]
    verbs := #[{ Verb.named [.word "meet"] [.word "meets"] [.word "meeting"] with
      subjectKind := some cat
      objectKind := some cat
      symmetric := true }] }

theorem isHierarchy_world : world.IsHierarchy :=
  World.isHierarchy_of_forall_kindIds (by decide) (by decide) (by decide)

theorem mem_of_holds (concept : Concept) (held : world.Holds concept) :
    concept ∈ [Concept.kind cat, .verb meet] := by
  rcases concept with ⟨⟨i⟩⟩ | ⟨⟨i⟩⟩ | ⟨⟨i⟩⟩ | ⟨⟨i⟩⟩
  all_goals simp_all [World.Holds, world, World.empty, cat, meet]

theorem isLettered_world : world.IsLettered :=
  World.isLettered_of_concepts _ mem_of_holds (by decide) (by decide)

end Parlor

/-- Two cats that meet are listed once, whichever of them is asked about. -/
theorem Blueprint.unambiguous_parlor : Parlor.world.IsHierarchy ∧ Parlor.world.IsLettered ∧
    (Parlor.world.verb Parlor.meet).symmetric = true ∧
    (ofRequest Parlor.world ⟨Parlor.cat, [], 2⟩).IsUnambiguous ∧
      ∀ solution, Model.ListsOnce ⟨ofRequest Parlor.world ⟨Parlor.cat, [], 2⟩, solution⟩ :=
  ⟨Parlor.isHierarchy_world, Parlor.isLettered_world, rfl,
    unambiguous_ofRequest Parlor.isHierarchy_world Parlor.isLettered_world _⟩

end Worldsmith
