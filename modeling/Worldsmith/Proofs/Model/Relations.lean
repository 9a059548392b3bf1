import Worldsmith.Proofs.Blueprint.Drawing
import Worldsmith.Proofs.Blueprint.Laws
import Worldsmith.Proofs.Blueprint.Naming
import Worldsmith.Proofs.Model.Membership
import Worldsmith.Proofs.World.Reachable

/-!
# Relations in models

The propositions of relations can be told apart by their names, so that each constraint on them
counts what it is meant to count. In a model relations therefore obey all that the verbs demand.

## Main definitions

* `Model.Obeys` — relations are what a verb says.

## Main statements

* `Model.obeys` — in a solution all verbs are obeyed.
* `Model.obeys_of_solve` — in whatever is imagined of a reachable world the verbs that relate two
  kinds are obeyed.
-/

namespace Worldsmith

namespace Blueprint

variable {world : World} {b : Blueprint} {verb verb' : Id .verb} {s o s' o' : Nat}
  {p q : Proposition}

/-- Whether beings can be told apart and all that verbs demand of them has been written down. -/
structure Related (world : World) (b : Blueprint) : Prop where
  distinct : Distinct world b
  indexed : b.Indexed
  governs : ∀ verb, b.Governs verb
  ties : ∀ verb subject object p, b.relation? verb subject object = some p →
    b.Ties ⟨verb, subject, object, p⟩

/-- The blueprint of a request, all whose verbs have been dealt with. -/
theorem related_ofRequest (hierarchy : world.IsHierarchy) (named : world.IsLettered)
    (request : Request) : Related world (ofRequest world request) := by
  have distinct := (labelled_beingsOf hierarchy named request).toDistinct
  obtain ⟨relates, governs, ties⟩ :=
    related_addRelations (complete_beingsOf world request).valid (indexed_beingsOf world request)
  have grows := relates.advances.grows
  refine ⟨⟨grows.world.trans distinct.world_eq, ?_, ?_⟩, relates.indexed, governs, ties⟩
  · intro i (lt : i < (beingsOf world request).addRelations.beings.size)
    rw [relates.size] at lt
    exact (grows.name_eq lt).symm ▸ distinct.argument i lt
  · intro i (lt : i < (beingsOf world request).addRelations.beings.size) j
      (lt' : j < (beingsOf world request).addRelations.beings.size) same
    rw [relates.size] at lt lt'
    refine distinct.eq_of_name i lt j lt' ?_
    exact (grows.name_eq lt).symm.trans (same.trans (grows.name_eq lt'))

namespace Related

variable (related : Related world b) (named : world.IsLettered)
include related named

/-- A proposition tells the relation and whom it relates, but for the order if it is symmetric. -/
theorem eq_of_relation? (known : b.relation? verb s o = some p)
    (known' : b.relation? verb' s' o' = some p) : verb = verb' ∧
      ((s = s' ∧ o = o') ∨ ((b.world.verb verb).symmetric = true ∧ s = o' ∧ o = s')) := by
  have links := related.indexed known
  have links' := related.indexed known'
  have lt := links.could.lt_size
  have lt' := links'.could.lt_size
  have argument := related.distinct.argument
  have predicate (verb : Id .verb) : IsPredicate (b.world.verbName verb) := by
    rw [related.distinct.world_eq]
    exact isPredicate_of_isNameChar (named.isNameChar (.verb verb))
  have same := Option.some.inj (links.name?.symm.trans links'.name?)
  obtain ⟨verbs, beings⟩ := Problem.binaryName_inj (predicate verb) (predicate verb')
    (argument s lt.1) (argument s' lt'.1) (argument o lt.2) (argument o' lt'.2) same
  have inside {verb : Id .verb} {s o : Nat} (could : b.CouldRelate verb s o) :
      world.Holds (.verb verb) := by
    obtain ⟨_, _, signed, -⟩ := could
    exact World.lt_size_of_subjectKind (related.distinct.world_eq ▸ signed)
  rw [related.distinct.world_eq] at verbs
  obtain rfl := Concept.verb.inj
    (named.eq_of_name _ _ (inside links.could) (inside links'.could) verbs)
  have eq_of_name {i j : Nat} (hi : i < b.beings.size) (hj : j < b.beings.size) :=
    related.distinct.eq_of_name i hi j hj
  refine ⟨rfl, beings.imp ?_ ?_⟩
  · exact fun ⟨x, y⟩ => ⟨eq_of_name lt.1 lt'.1 x, eq_of_name lt.2 lt'.2 y⟩
  · rintro ⟨symmetric, x, y⟩
    exact ⟨by simpa using symmetric, eq_of_name lt.1 lt'.2 x, eq_of_name lt.2 lt'.1 y⟩

/-- The propositions that one being is related to others by one verb are all different. -/
theorem nodup_relations (verb : Id .verb) (s : Nat) {objects : List Nat} (nodup : objects.Nodup) :
    (objects.filterMap fun o => b.relation? verb s o).Nodup := by
  refine nodup.filterMap fun o o' p known known' => ?_
  obtain ⟨-, ⟨-, same⟩ | ⟨-, rfl, rfl⟩⟩ := related.eq_of_relation? named known known'
  · exact same
  · rfl

end Related

end Blueprint

namespace Model

open Blueprint

variable {m : Model} {i s o : Nat} {p q : Proposition} {premise : Literal} {trait : Trait}
  {kind subjectKind objectKind : Id .kind} {verb other : Id .verb}

/-- Whether relations are what a verb of two kinds says. -/
structure Obeys (m : Model) (verb : Id .verb) (subjectKind objectKind : Id .kind) : Prop where
  kinds : ∀ s o, m.related verb s o = true →
    m.isOf s subjectKind = true ∧ m.isOf o objectKind = true
  modifiers : ∀ s o, m.related verb s o = true →
    (∀ trait ∈ (m.world.verb verb).subjectModifiers, m.hasTrait s trait = true) ∧
      ∀ trait ∈ (m.world.verb verb).objectModifiers, m.hasTrait o trait = true
  lowerBound : ∀ s, m.isOf s subjectKind = true → ∀ low, (m.world.verb verb).lowerBound = some low →
    low ≤ (List.range m.size).countP (m.related verb s)
  upperBound : ∀ s, m.isOf s subjectKind = true → ∀ high,
    (m.world.verb verb).upperBound = some high →
      (List.range m.size).countP (m.related verb s) ≤ high
  antiReflexive : (m.world.verb verb).antiReflexive = true → ∀ s, m.related verb s s = false
  reflexive : (m.world.verb verb).reflexive = true → (m.world.verb verb).antiReflexive = false →
    ∀ s, m.isOf s subjectKind = true → m.isOf s objectKind = true → m.related verb s s = true
  symmetric : (m.world.verb verb).symmetric = true → ∀ s o,
    m.related verb s o = m.related verb o s
  antiSymmetric : (m.world.verb verb).antiSymmetric = true →
    (m.world.verb verb).symmetric = false → ∀ s o, s ≠ o →
      ¬(m.related verb s o = true ∧ m.related verb o s = true)
  general : ∀ s o, m.related verb s o = true →
    ∀ general ∈ (m.world.verb verb).generalizations ++ (m.world.verb verb).superspecies,
      m.related general s o = true
  exclusions : ∀ s o, m.related verb s o = true →
    ∀ other ∈ (m.world.verb verb).exclusions, m.related other s o = false
  subspecies : ∀ s o, ∀ way ∈ (m.world.verb verb).subspecies,
    ∀ way' ∈ (m.world.verb verb).subspecies, m.related way s o = true →
      m.related way' s o = true → way = way'

theorem related_iff : m.related verb s o = true ↔
    ∃ p, m.blueprint.relation? verb s o = some p ∧ m.solution.holds p = true := by
  rw [related]
  cases m.blueprint.relation? verb s o <;> simp

theorem related_eq (known : m.blueprint.relation? verb s o = some p) :
    m.related verb s o = m.solution.holds p := by
  rw [related, known, Option.any_some]

theorem lt_size_of_isOf (isOf : m.isOf i kind = true) : i < m.size := by
  by_contra outside
  have none : (default : Being).kinds = [] := rfl
  have being : m.blueprint.being i = default := being_of_size_le (Nat.le_of_not_lt outside)
  simp [Model.isOf, couldBe, being, none, World.couldBe] at isOf

theorem mem_candidates_of_isOf (isOf : m.isOf i kind = true) :
    i ∈ m.blueprint.candidates kind :=
  mem_candidates_iff.mpr ⟨lt_size_of_isOf isOf, (Bool.and_eq_true_iff.mp isOf).1⟩

namespace IsSolved

variable (solved : m.IsSolved)
include solved

theorem hasTrait_of_requires (requires : m.blueprint.Requires p.positive i trait)
    (holds : m.solution.holds p = true) : m.hasTrait i trait = true := by
  obtain ⟨l, denotes, demands⟩ := requires
  obtain ⟨l', mem, satisfied⟩ := solved.satisfies_of_clause demands
  rcases List.mem_pair.mp (List.mem_eraseDups.mp mem) with rfl | rfl
  · simp [Solution.satisfies, Literal.negate, Proposition.positive, holds] at satisfied
  · rwa [solved.satisfies_eq denotes] at satisfied

theorem isOf_of_requires (requires : m.blueprint.Requires p.positive i ⟨.kind kind, true⟩)
    (holds : m.solution.holds p = true) : m.isOf i kind = true := by
  simpa [hasTrait, hasQuality] using solved.hasTrait_of_requires requires holds

theorem not_holds_of_demands (demands : m.blueprint.Demands (.clause [p.negative])) :
    m.solution.holds p = false := by
  obtain ⟨l, mem, satisfied⟩ := solved.satisfies_of_clause demands
  obtain rfl := List.mem_singleton.mp mem
  simpa [Solution.satisfies, Proposition.negative] using satisfied

theorem holds_of_demands
    (demands : m.blueprint.Demands (.clause [p.negative, q.positive].eraseDups))
    (holds : m.solution.holds p = true) : m.solution.holds q = true := by
  obtain ⟨l, mem, satisfied⟩ := solved.satisfies_of_clause demands
  rcases List.mem_pair.mp (List.mem_eraseDups.mp mem) with rfl | rfl
  · simp [Solution.satisfies, Proposition.negative, holds] at satisfied
  · simpa [Solution.satisfies, Proposition.positive] using satisfied

/-- Of different propositions one at most of which can hold no two do. -/
theorem not_both_of_demands (ps : List Proposition)
    (demands : m.blueprint.Demands (.between 0 1 (ps.map Proposition.positive).eraseDups))
    (hp : p ∈ ps) (hq : q ∈ ps) (isP : m.solution.holds p = true)
    (isQ : m.solution.holds q = true) : p = q := by
  by_contra apart
  have most := (Constraint.holds_between_iff.mp (solved.holds demands)).2
  have positive {p : Proposition} (holds : m.solution.holds p = true) :
      m.solution.satisfies p.positive = true := by
    simpa [Solution.satisfies, Proposition.positive] using holds
  have both : ∃! l, l ∈ ps.map Proposition.positive ∧ m.solution.satisfies l = true := by
    refine countP_eraseDups_eq_one_iff.mp (Nat.le_antisymm most (List.countP_pos_iff.mpr ?_))
    exact ⟨p.positive, List.mem_eraseDups.mpr (List.mem_map_of_mem hp), positive isP⟩
  have same := both.unique ⟨List.mem_map_of_mem hp, positive isP⟩
    ⟨List.mem_map_of_mem hq, positive isQ⟩
  exact apart (congrArg Literal.proposition same)

end IsSolved

section Obeys

variable {world : World} (related : Related world m.blueprint) (named : world.IsLettered)
  (solved : m.IsSolved)
include related solved

theorem kinds_of_related (isRelated : m.related verb s o = true)
    (hasSubject : (m.world.verb verb).subjectKind = some subjectKind)
    (hasObject : (m.world.verb verb).objectKind = some objectKind) :
    m.isOf s subjectKind = true ∧ m.isOf o objectKind = true := by
  obtain ⟨p, known, holds⟩ := related_iff.mp isRelated
  obtain ⟨isSubject, isObject⟩ := (related.indexed known).kinds _ _ hasSubject hasObject
  exact ⟨solved.isOf_of_requires isSubject holds, solved.isOf_of_requires isObject holds⟩

/-- In a symmetric relation whoever is related could be so the other way round. -/
theorem related_comm (symmetric : (m.world.verb verb).symmetric = true)
    (isRelated : m.related verb s o = true) : m.related verb o s = true := by
  obtain ⟨p, known, holds⟩ := related_iff.mp isRelated
  have links := related.indexed known
  obtain ⟨subjectKind, objectKind, hasSubject, hasObject, -⟩ := links.could
  obtain ⟨isSubject, isObject⟩ := links.converse symmetric _ _ hasSubject hasObject
  have could : m.blueprint.CouldRelate verb o s := ⟨subjectKind, objectKind, hasSubject, hasObject,
    mem_candidates_of_isOf (solved.isOf_of_requires isSubject holds),
    mem_candidates_of_isOf (solved.isOf_of_requires isObject holds)⟩
  obtain ⟨q, known'⟩ := (related.governs verb).covers o s could
  have name := links.name?
  have name' := (related.indexed known').name?
  have world_symmetric : (m.blueprint.world.verb verb).symmetric = true := symmetric
  rw [relationName, world_symmetric, Problem.binaryName_comm, ← world_symmetric] at name
  obtain rfl := Problem.eq_of_name? name name'
  exact related_iff.mpr ⟨p, known', holds⟩

theorem related_of_general (isRelated : m.related verb s o = true)
    (mem : other ∈ (m.world.verb verb).generalizations ++ (m.world.verb verb).superspecies) :
    m.related other s o = true := by
  obtain ⟨p, known, holds⟩ := related_iff.mp isRelated
  rcases (related.ties verb s o p known).general other mem with ⟨q, known', demands⟩ | demands
  · exact related_iff.mpr ⟨q, known', solved.holds_of_demands demands holds⟩
  · exact absurd (holds.symm.trans (solved.not_holds_of_demands demands)) (by simp)

include named

/-- Different verbs have different propositions, of which an exclusion allows one. -/
theorem not_related_of_lt (lt : verb.index < other.index)
    (mem : other ∈ (m.world.verb verb).exclusions) (isRelated : m.related verb s o = true) :
    m.related other s o = false := by
  rw [Bool.eq_false_iff]
  intro isOther
  obtain ⟨p, known, holds⟩ := related_iff.mp isRelated
  obtain ⟨q, known', holds'⟩ := related_iff.mp isOther
  have demands := (related.ties verb s o p known).excluded other mem lt q known'
  obtain rfl := solved.not_both_of_demands [p, q] demands List.mem_cons_self
    (List.mem_cons_of_mem _ (List.mem_singleton_self q)) holds holds'
  obtain ⟨rfl, -⟩ := related.eq_of_relation? named known known'
  exact Nat.lt_irrefl _ lt

theorem not_related_of_exclusion (reciprocal : m.world.IsReciprocal)
    (mem : other ∈ (m.world.verb verb).exclusions) (isRelated : m.related verb s o = true) :
    m.related other s o = false := by
  rcases Nat.lt_trichotomy verb.index other.index with lt | same | lt
  · exact not_related_of_lt related named solved lt mem isRelated
  · obtain rfl : verb = other := by
      cases verb
      cases other
      exact congrArg Id.mk same
    exact absurd mem (reciprocal.notMem_exclusions verb)
  · rw [Bool.eq_false_iff]
    intro isOther
    have isNot := not_related_of_lt related named solved lt
      (reciprocal.mem_exclusions verb other mem) isOther
    exact Bool.false_ne_true (isNot.symm.trans isRelated)

theorem eq_of_subspecies (reciprocal : m.world.IsReciprocal) {way way' : Id .verb}
    (mem : way ∈ (m.world.verb verb).subspecies) (mem' : way' ∈ (m.world.verb verb).subspecies)
    (isRelated : m.related way s o = true) (isRelated' : m.related way' s o = true) :
    way = way' := by
  -- A way of a relation implies the relation, which keeps its ways apart.
  have general := related_of_general related solved isRelated
    (List.mem_append_right _ (reciprocal.mem_superspecies verb way mem))
  obtain ⟨r, known, -⟩ := related_iff.mp general
  obtain ⟨p, hp, holds⟩ := related_iff.mp isRelated
  obtain ⟨q, hq, holds'⟩ := related_iff.mp isRelated'
  have among : p ∈ (m.world.verb verb).subspecies.filterMap
      fun way => m.blueprint.relation? way s o := List.mem_filterMap.mpr ⟨way, mem, hp⟩
  have among' : q ∈ (m.world.verb verb).subspecies.filterMap
      fun way => m.blueprint.relation? way s o := List.mem_filterMap.mpr ⟨way', mem', hq⟩
  have ways := (related.ties verb s o r known).ways _ rfl
  have same : p = q := by
    by_contra apart
    exact apart (solved.not_both_of_demands _ (ways (one_lt_length_of_ne among among' apart)) among
      among' holds holds')
  subst same
  exact (related.eq_of_relation? named hp hq).1

omit named in
theorem related_self (reflexive : (m.world.verb verb).reflexive = true)
    (notAnti : (m.world.verb verb).antiReflexive = false)
    (hasSubject : (m.world.verb verb).subjectKind = some subjectKind)
    (hasObject : (m.world.verb verb).objectKind = some objectKind)
    (isSubject : m.isOf s subjectKind = true) (isObject : m.isOf s objectKind = true) :
    m.related verb s s = true := by
  obtain ⟨p, known⟩ := (related.governs verb).covers s s ⟨subjectKind, objectKind, hasSubject,
    hasObject, mem_candidates_of_isOf isSubject, mem_candidates_of_isOf isObject⟩
  obtain ⟨l, l', denotes, denotes', demands⟩ :=
    (related.governs verb).loops.reflexive notAnti reflexive hasSubject hasObject known
  obtain ⟨literal, mem, satisfied⟩ := solved.satisfies_of_clause demands
  rw [List.mem_eraseDups] at mem
  have isL := (solved.satisfies_kind denotes).trans isSubject
  have isL' := (solved.satisfies_kind denotes').trans isObject
  rw [related_eq known]
  rcases List.mem_cons.mp mem with rfl | mem
  · simp [satisfies_negate, isL] at satisfied
  · rcases List.mem_pair.mp mem with rfl | rfl
    · simp [satisfies_negate, isL'] at satisfied
    · simpa [Solution.satisfies, Proposition.positive] using satisfied

theorem not_related_back (antiSymmetric : (m.world.verb verb).antiSymmetric = true)
    (directed : (m.world.verb verb).symmetric = false) (lt : s < o)
    (isRelated : m.related verb s o = true) : m.related verb o s = false := by
  rw [Bool.eq_false_iff]
  intro isBack
  obtain ⟨p, known, holds⟩ := related_iff.mp isRelated
  obtain ⟨q, known', holds'⟩ := related_iff.mp isBack
  have demands := (related.governs verb).oneWay antiSymmetric lt known known'
  obtain rfl := solved.not_both_of_demands [p, q] demands List.mem_cons_self
    (List.mem_cons_of_mem _ (List.mem_singleton_self q)) holds holds'
  have same := (related.eq_of_relation? named known known').2
  have symmetric : (m.blueprint.world.verb verb).symmetric = false := directed
  rw [symmetric] at same
  simp [Nat.ne_of_lt lt] at same

omit solved named in
/-- All objects of a subject are among the beings that could be objects. -/
theorem countP_related (hasObject : (m.world.verb verb).objectKind = some objectKind) (s : Nat) :
    (List.range m.size).countP (m.related verb s) =
      (m.blueprint.candidates objectKind).countP (m.related verb s) := by
  rw [candidates, List.countP_filter]
  refine List.countP_congr fun o _ => ?_
  rw [Bool.and_eq_true]
  refine ⟨fun isRelated => ⟨isRelated, ?_⟩, And.left⟩
  obtain ⟨p, known, -⟩ := related_iff.mp isRelated
  obtain ⟨_, _, -, isObject, -, ho⟩ := (related.indexed known).could
  obtain rfl := Option.some.inj (hasObject.symm.trans isObject)
  exact (mem_candidates_iff.mp ho).2

omit solved in
/-- Objects are counted by the propositions that say so, because these are all different. -/
theorem countP_literals (verb : Id .verb) (s : Nat) (kind : Id .kind) :
    (((m.blueprint.candidates kind).filterMap fun o =>
      m.blueprint.relation? verb s o).map Proposition.positive).eraseDups.countP
        m.solution.satisfies = (m.blueprint.candidates kind).countP (m.related verb s) := by
  have nodup : (m.blueprint.candidates kind).Nodup := List.nodup_range.filter _
  have positive : Function.Injective Proposition.positive :=
    fun p q same => congrArg Literal.proposition same
  rw [eraseDups_eq_self ((related.nodup_relations named verb s nodup).map positive),
    List.countP_map, List.countP_filterMap]
  refine List.countP_congr fun o _ => ?_
  cases known : m.blueprint.relation? verb s o with
  | none => simp [related_iff, known]
  | some p => simp [related_eq known, Solution.satisfies, Proposition.positive]

/-- The number of objects is within the bounds, also where none have been written down. -/
theorem bounds_of_isOf (hasSubject : (m.world.verb verb).subjectKind = some subjectKind)
    (hasObject : (m.world.verb verb).objectKind = some objectKind)
    (isSubject : m.isOf s subjectKind = true) :
    (∀ low, (m.world.verb verb).lowerBound = some low →
        low ≤ (List.range m.size).countP (m.related verb s)) ∧
      ∀ high, (m.world.verb verb).upperBound = some high →
        (List.range m.size).countP (m.related verb s) ≤ high := by
  rw [countP_related related hasObject]
  have limits := (related.governs verb).limits hasSubject hasObject s
    (mem_candidates_of_isOf isSubject)
  unfold Limits at limits
  dsimp only at limits
  rcases limits with ⟨none, all⟩ | ⟨member, denotes, demands⟩
  · constructor
    · intro low (known : (m.blueprint.world.verb verb).lowerBound = some low)
      rw [known, Option.getD_some] at none
      omega
    · intro high (known : (m.blueprint.world.verb verb).upperBound = some high)
      rw [known, Option.getD_some] at all
      exact List.countP_le_length.trans all
  · have met := Constraint.holds_guarded_iff.mp (solved.holds demands)
      ((solved.satisfies_kind denotes).trans isSubject)
    rw [countP_literals related named] at met
    constructor
    · intro low (known : (m.blueprint.world.verb verb).lowerBound = some low)
      rw [known, Option.getD_some] at met
      exact met.1
    · intro high (known : (m.blueprint.world.verb verb).upperBound = some high)
      rw [known, Option.getD_some] at met
      exact met.2

/-- In a solution all verbs are obeyed. -/
theorem obeys (reciprocal : m.world.IsReciprocal)
    (hasSubject : (m.world.verb verb).subjectKind = some subjectKind)
    (hasObject : (m.world.verb verb).objectKind = some objectKind) :
    m.Obeys verb subjectKind objectKind where
  kinds s o isRelated := kinds_of_related related solved isRelated hasSubject hasObject
  modifiers s o isRelated := by
    obtain ⟨p, known, holds⟩ := related_iff.mp isRelated
    have links := related.indexed known
    exact ⟨fun trait mem => solved.hasTrait_of_requires (links.subjectModifiers trait mem) holds,
      fun trait mem => solved.hasTrait_of_requires (links.objectModifiers trait mem) holds⟩
  lowerBound s isSubject :=
    (bounds_of_isOf related named solved hasSubject hasObject isSubject).1
  upperBound s isSubject :=
    (bounds_of_isOf related named solved hasSubject hasObject isSubject).2
  antiReflexive anti s := by
    rw [Bool.eq_false_iff]
    intro isRelated
    obtain ⟨p, known, holds⟩ := related_iff.mp isRelated
    have demands := (related.governs verb).loops.antiReflexive anti known
    have denied := solved.not_holds_of_demands demands
    exact Bool.false_ne_true (denied.symm.trans holds)
  reflexive reflexive notAnti s isSubject isObject :=
    related_self related solved reflexive notAnti hasSubject hasObject isSubject isObject
  symmetric symmetric s o := Bool.eq_iff_iff.mpr
    ⟨related_comm related solved symmetric, related_comm related solved symmetric⟩
  antiSymmetric anti directed s o apart := by
    rintro ⟨isRelated, isBack⟩
    rcases Nat.lt_or_gt_of_ne apart with lt | lt
    · have isNot := not_related_back related named solved anti directed lt isRelated
      exact Bool.false_ne_true (isNot.symm.trans isBack)
    · have isNot := not_related_back related named solved anti directed lt isBack
      exact Bool.false_ne_true (isNot.symm.trans isRelated)
  general s o isRelated general mem := related_of_general related solved isRelated mem
  exclusions s o isRelated other mem :=
    not_related_of_exclusion related named solved reciprocal mem isRelated
  subspecies s o way mem way' mem' isRelated isRelated' :=
    eq_of_subspecies related named solved reciprocal mem mem' isRelated isRelated'

end Obeys

/-- In whatever is imagined of a world that declarations lead to, each verb that relates two kinds
is obeyed. -/
theorem obeys_of_solve {σ : Type} {world : World} {request : Request} {chooser : Chooser σ}
    {budget : Nat} {source source' : σ} {solution : Solution} (reachable : world.Reachable)
    (named : world.IsLettered)
    (solved : (Blueprint.ofRequest world request).problem.solve chooser budget source =
      (.ok solution, source'))
    (hasSubject : (world.verb verb).subjectKind = some subjectKind)
    (hasObject : (world.verb verb).objectKind = some objectKind) :
    Obeys ⟨.ofRequest world request, solution⟩ verb subjectKind objectKind := by
  have sound := reachable.isSound
  have related := related_ofRequest sound.hierarchy named request
  have complete := (complete_ofRequest world request).1
  generalize Blueprint.ofRequest world request = b at solved related complete ⊢
  obtain rfl := related.distinct.world_eq
  have met := (complete.valid.built.scoped.satisfiedBy_of_solve solved).1
  exact obeys related named met sound.reciprocal hasSubject hasObject

end Model

/-! ## A clowder -/

namespace Clowder

open Blueprint

def cat : Id .kind := ⟨0⟩

def chase : Id .verb := ⟨0⟩

/-- There are no menus. -/
def noMenu (source : String) : Except ResourceError (List String) := .error (.notFound source)

/-- All that is said is that cats chase themselves. -/
def world : World := (World.empty.tell? noMenu "cats must chase themselves").getD .empty

/-- Whether all there is are cats, and a verb for what they must do. -/
structure IsClowder (world : World) : Prop where
  kinds : world.kinds = #[.named [.word "cat"] [.word "cats"]]
  adjectives : world.adjectives.size = 0
  individuals : world.individuals.size = 0
  verbs : world.verbs.size = 1
  base : (world.verb chase).base = [.word "chase"]
  subjectKind : (world.verb chase).subjectKind = some cat
  objectKind : (world.verb chase).objectKind = some cat
  subjectModifiers : (world.verb chase).subjectModifiers = []
  objectModifiers : (world.verb chase).objectModifiers = []
  lowerBound : (world.verb chase).lowerBound = none
  upperBound : (world.verb chase).upperBound = none
  reflexive : (world.verb chase).reflexive = true
  antiReflexive : (world.verb chase).antiReflexive = false
  symmetric : (world.verb chase).symmetric = false
  antiSymmetric : (world.verb chase).antiSymmetric = false
  generalizations : (world.verb chase).generalizations = []
  superspecies : (world.verb chase).superspecies = []
  exclusions : (world.verb chase).exclusions = []
  subspecies : (world.verb chase).subspecies = []

namespace IsClowder

variable {world : World} (h : IsClowder world)
include h

theorem kind_cat : world.kind cat = .named [.word "cat"] [.word "cats"] := by
  simp [World.kind, h.kinds, cat]

theorem holds_iff (concept : Concept) : world.Holds concept ↔
    concept = .kind cat ∨ concept = .verb chase := by
  rcases concept with ⟨⟨i⟩⟩ | ⟨⟨i⟩⟩ | ⟨⟨i⟩⟩ | ⟨⟨i⟩⟩
  all_goals simp [World.Holds, h.kinds, h.adjectives, h.individuals, h.verbs, cat, chase]

theorem isLettered : world.IsLettered := by
  have cat_name : world.conceptName (.kind cat) = [.word "cat"] := by
    rw [World.conceptName, h.kind_cat]
    rfl
  have chase_name : world.conceptName (.verb chase) = [.word "chase"] := h.base
  refine World.isLettered_of_concepts [.kind cat, .verb chase] (fun concept held => ?_) ?_ ?_
  · simpa using (h.holds_iff concept).mp held
  · rw [List.forall_mem_cons, List.forall_mem_singleton, cat_name, chase_name]
    decide
  · simp only [List.map_cons, List.map_nil, cat_name, chase_name]
    decide

/-- The cat that is asked for. -/
def tom : Being := ⟨"cat1", [cat], [], none, none, [], [], 0⟩

theorem soleBeing_cat : soleBeing world cat = tom := by
  have name : ((world.kindName cat).map fun c => if c = ' ' then '_' else c) = "cat" := by
    rw [World.kindName, h.kind_cat, ← String.toList_inj, String.toList_map]
    decide
  rw [soleBeing, name]
  rfl

theorem memberName_cat : Sheet.memberName world tom cat = "cat(cat1)" := by
  rw [Sheet.memberName, World.kindName, h.kind_cat]
  decide

theorem couldBe_cat : world.couldBe tom.kinds cat = true := by
  simp [World.couldBe, tom, World.descendants, h.kinds, World.spread, h.kind_cat, Kind.named,
    World.isA, World.isAWithin]

def isCat : Proposition := ⟨0⟩

def chases : Proposition := ⟨1⟩

/-- What is known of a cat before it is related to itself. -/
def alone : Sheet := ⟨["cat(cat1)"], [.clause [isCat.positive]], []⟩

theorem drawn_alone : ∃ b : Blueprint, ofRequest world ⟨cat, [], 1⟩ = b.addRelations ∧
    b.Drawn world tom [cat] [] alone := by
  have fuel : enoughFuel world = 17 + 1 := by simp [enoughFuel, h.kinds, maxPartDepth]
  have start := h.soleBeing_cat ▸ drawn_withBeing world cat
  have none_above : (world.kind cat).superkinds = [] := h.kind_cat ▸ rfl
  have none_below : (world.kind cat).subkinds = [] := h.kind_cat ▸ rfl
  have no_property : (world.kind cat).properties = [] := h.kind_cat ▸ rfl
  have plain : (world.kind cat).IsPlain := h.kind_cat ▸ ⟨rfl, rfl, rfl, rfl⟩
  obtain ⟨later, declared, drawn⟩ := start.declare_root
    (by simp [withBeing, freshName, ofWorld]) none_above h.couldBe_cat 17
  have expanded := drawn.expand_leaf (by simp) h.couldBe_cat plain none_below
    (by simp [none_above]) (by simp [no_property]) (by simp [no_property])
    (by simp [no_property]) rfl 15
  rw [← declared, ← fuel, no_property] at expanded
  refine ⟨_, ofRequest_one h.individuals cat, Drawn.request ?_ _⟩
  have sheet : (Sheet.empty.assertMember world tom cat).expandLeaf world tom cat = alone := by
    simp only [Sheet.assertMember, Sheet.expandLeaf, h.memberName_cat, none_above, no_property]
    rfl
  exact sheet ▸ expanded

/-- What is known of a cat that chases itself. -/
def chasing : Sheet := ⟨["cat(cat1)", "chase(cat1, cat1)"],
  [.clause [isCat.positive], .clause [chases.negative, isCat.positive],
    .clause [chases.negative, isCat.positive], .clause [isCat.negative, chases.positive]], []⟩


theorem drawn_related {b : Blueprint} (drawn : b.Drawn world tom [cat] [] alone) :
    (addVerb b chase).Drawn world tom [cat] [] chasing := by
  have candidates := drawn.candidates_eq h.couldBe_cat
  have named := h.memberName_cat
  obtain ⟨known, related⟩ := drawn.addPair chase h.symmetric h.subjectModifiers h.objectModifiers
    h.couldBe_cat h.couldBe_cat
  have looped := related.addLoop known h.reflexive h.antiReflexive h.couldBe_cat h.couldBe_cat
  have pairs : pairs [0] [0] = [(0, 0)] := rfl
  have loops : [0].filter [0].contains = [0] := rfl
  simp only [addVerb, drawn.world, h.subjectKind, h.objectKind, candidates, pairs, loops,
    h.antiSymmetric, List.foldl_cons, List.foldl_nil, Bool.false_eq_true, if_false, addBounds,
    h.lowerBound, h.upperBound, Option.getD_none]
  have sheet : ((alone.relateSelf tom (world.verb chase)).2.demandKinds world tom
      (alone.relateSelf tom (world.verb chase)).1.positive cat cat).demandSelf world tom
        (alone.relateSelf tom (world.verb chase)).1 cat cat = chasing := by
    simp only [Sheet.relateSelf, Sheet.demandKinds, Sheet.demandSelf, Sheet.bothAre,
      h.memberName_cat, h.base, h.symmetric]
    rfl
  exact sheet ▸ looped

theorem consists : (ofRequest world ⟨cat, [], 1⟩).problem.Consists chasing := by
  obtain ⟨b, same, drawn⟩ := h.drawn_alone
  have verbs : b.world.verbIds = [chase] := by
    rw [drawn.world, World.verbIds, h.verbs]
    rfl
  have untied (b : Blueprint) (here : b.world = world) : tieVerb b chase = b := by
    rw [tieVerb, here]
    refine List.foldlRecOn (motive := fun b' => b' = b) _ _ rfl fun b' same relation _ => ?_
    rw [same, tieRelation, h.generalizations, h.superspecies, h.exclusions, h.subspecies]
    rfl
  have related := h.drawn_related drawn
  rw [same, addRelations, verbs]
  simp only [List.foldl_cons, List.foldl_nil]
  rw [untied _ related.world]
  exact related.consists

omit h in
/-- The cat is a cat and therefore chases itself. -/
theorem solve_chasing {problem : Problem} (consists : problem.Consists chasing) :
    problem.solve .steady 20 () = (.ok ⟨#[true, true], #[], 11⟩, ()) := by
  have settled : problem.settle 20 =
      ⟨.quiet, ⟨#[some true, some true], #[isCat, chases]⟩, 9⟩ := by
    rw [Problem.settle, Problem.occurrences, consists.size_eq, consists.constraints]
    cbv
  have found : problem.search .steady 20 () =
      (.found ⟨#[some true, some true], #[isCat, chases]⟩ 9, ()) := by
    rw [Problem.search, settled]
    dsimp only [Chooser.steady]
    rw [Problem.propositions, consists.size_eq, descend]
    cbv
  rw [Problem.solve, found]
  simp only [consists.unknowns]
  cbv

end IsClowder

/-- The line is understood and makes a clowder. -/
theorem told_world : (World.empty.tell? noMenu "cats must chase themselves").isSome = true ∧
    world.kinds = #[.named [.word "cat"] [.word "cats"]] ∧
    (world.adjectives.size = 0 ∧ world.individuals.size = 0 ∧ world.verbs.size = 1) ∧
    ((world.verb chase).base = [.word "chase"] ∧ (world.verb chase).subjectKind = some cat ∧
      (world.verb chase).objectKind = some cat ∧ (world.verb chase).subjectModifiers = [] ∧
      (world.verb chase).objectModifiers = [] ∧ (world.verb chase).lowerBound = none ∧
      (world.verb chase).upperBound = none) ∧
    ((world.verb chase).reflexive = true ∧ (world.verb chase).antiReflexive = false ∧
      (world.verb chase).symmetric = false ∧ (world.verb chase).antiSymmetric = false) ∧
    (world.verb chase).generalizations = [] ∧ (world.verb chase).superspecies = [] ∧
      (world.verb chase).exclusions = [] ∧ (world.verb chase).subspecies = [] := by
  decide +kernel

theorem isClowder_world : IsClowder world := by
  obtain ⟨-, kinds, ⟨adjectives, individuals, verbs⟩, ⟨base, subjectKind, objectKind,
    subjectModifiers, objectModifiers, lowerBound, upperBound⟩, ⟨reflexive, antiReflexive,
    symmetric, antiSymmetric⟩, generalizations, superspecies, exclusions, subspecies⟩ := told_world
  constructor <;> assumption

theorem reachable_world : world.Reachable := by
  obtain ⟨later, told⟩ := Option.isSome_iff_exists.mp told_world.1
  rw [world, told, Option.getD_some]
  exact World.Reachable.empty.tell told

end Clowder

/-- The cat that is imagined chases itself, as it must. -/
theorem Model.obeys_clowder : Clowder.world.Reachable ∧ Clowder.world.IsLettered ∧
    (Clowder.world.verb Clowder.chase).subjectKind = some Clowder.cat ∧
    (Clowder.world.verb Clowder.chase).objectKind = some Clowder.cat ∧
    (Blueprint.ofRequest Clowder.world ⟨Clowder.cat, [], 1⟩).problem.solve .steady 20 () =
      (.ok ⟨#[true, true], #[], 11⟩, ()) ∧
    let m : Model := ⟨.ofRequest Clowder.world ⟨Clowder.cat, [], 1⟩, ⟨#[true, true], #[], 11⟩⟩
    m.Obeys Clowder.chase Clowder.cat Clowder.cat := by
  have h := Clowder.isClowder_world
  have solved := Clowder.IsClowder.solve_chasing h.consists
  exact ⟨Clowder.reachable_world, h.isLettered, h.subjectKind, h.objectKind, solved,
    obeys_of_solve Clowder.reachable_world h.isLettered solved h.subjectKind h.objectKind⟩

end Worldsmith
