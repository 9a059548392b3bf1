import Worldsmith.Proofs.Blueprint.Pairs

/-!
# The laws of verbs

A verb's own laws, its bounds and the laws that tie it to other verbs are constraints on the
propositions of its pairs. They are written down once all pairs have their propositions.

## Main definitions

* `Blueprint.Governs` — all that a verb by itself demands has been written down.
* `Blueprint.Ties` — all that a relation has to do with other verbs has been written down.

## Main statements

* `Blueprint.related_addRelations` — when beings have been related all of this has been written
  down.
-/

namespace Worldsmith

namespace Blueprint

variable {b b' : Blueprint} {i subject object : Nat} {p q : Proposition} {verb : Id .verb}
  {subjectKind objectKind : Id .kind}

/-! ## The laws of a verb -/

/-- Whether a being of both kinds has to stand in a relation to itself. -/
def Mirrors (b : Blueprint) (i : Nat) (subjectKind objectKind : Id .kind) (p : Proposition) :
    Prop :=
  ∃ s o, b.Denotes s i ⟨.kind subjectKind, true⟩ ∧ b.Denotes o i ⟨.kind objectKind, true⟩ ∧
    b.Demands (.clause [s.negate, o.negate, p.positive].eraseDups)

/-- Whether the number of objects of a member of the subject kind has to be within the verb's
bounds, unless all numbers are. -/
def Limits (b : Blueprint) (verb : Id .verb) (subjectKind objectKind : Id .kind) (subject : Nat) :
    Prop :=
  let objects := b.candidates objectKind
  let low := (b.world.verb verb).lowerBound.getD 0
  let high := (b.world.verb verb).upperBound.getD objects.length
  (low = 0 ∧ objects.length ≤ high) ∨ ∃ member, b.Denotes member subject ⟨.kind subjectKind, true⟩ ∧
    b.Demands ((Constraint.between low high ((objects.filterMap fun object =>
      b.relation? verb subject object).map Proposition.positive).eraseDups).guarded member)

/-- Whether all that a verb says about beings and themselves has been written down. -/
structure Loops (b : Blueprint) (verb : Id .verb) : Prop where
  antiReflexive : (b.world.verb verb).antiReflexive = true → ∀ {i : Nat} {p : Proposition},
    b.relation? verb i i = some p → b.Demands (.clause [p.negative])
  reflexive : (b.world.verb verb).antiReflexive = false → (b.world.verb verb).reflexive = true →
    ∀ {i : Nat} {p : Proposition} {subjectKind objectKind : Id .kind},
      (b.world.verb verb).subjectKind = some subjectKind →
      (b.world.verb verb).objectKind = some objectKind → b.relation? verb i i = some p →
        b.Mirrors i subjectKind objectKind p

/-- Whether it has been written down that a relation does not hold both ways, if the verb says
so. -/
def OneWay (b : Blueprint) (verb : Id .verb) : Prop :=
  (b.world.verb verb).antiSymmetric = true → ∀ {x y : Nat} {p q : Proposition}, x < y →
    b.relation? verb x y = some p → b.relation? verb y x = some q →
      b.Demands (.between 0 1 [p.positive, q.positive].eraseDups)

/-- Whether all that a verb by itself demands has been written down. -/
structure Governs (b : Blueprint) (verb : Id .verb) : Prop where
  covers : b.Covers verb
  loops : b.Loops verb
  oneWay : b.OneWay verb
  limits : ∀ {subjectKind objectKind : Id .kind},
    (b.world.verb verb).subjectKind = some subjectKind →
    (b.world.verb verb).objectKind = some objectKind →
      ∀ subject ∈ b.candidates subjectKind, b.Limits verb subjectKind objectKind subject

/-- Once a verb has been dealt with, no further pairs of its come to be related. -/
theorem Relates.relation?_eq (h : b.Relates b')
    (covers : b.Covers verb) (subject object : Nat) :
    b'.relation? verb subject object = b.relation? verb subject object := by
  cases known : b'.relation? verb subject object with
  | none =>
    cases before : b.relation? verb subject object with
    | none => rfl
    | some p => exact known.symm.trans (h.relation? before)
  | some q =>
    have could := (couldRelate_iff h.advances.grows h.size).mp (h.indexed known).could
    obtain ⟨p, before⟩ := covers subject object could
    rw [before, ← known, h.relation? before]

theorem Relates.covers (h : b.Relates b') (covers : b.Covers verb) : b'.Covers verb :=
  fun subject object could =>
    (covers subject object ((couldRelate_iff h.advances.grows h.size).mp could)).imp
      fun _ => h.relation?

theorem Extends.mirrors (grows : b.Extends b') (hi : i < b.beings.size)
    (mirrors : b.Mirrors i subjectKind objectKind p) : b'.Mirrors i subjectKind objectKind p := by
  obtain ⟨s, o, isSubject, isObject, demands⟩ := mirrors
  exact ⟨s, o, grows.denotes hi isSubject, grows.denotes hi isObject, grows.demands demands⟩

theorem Relates.limits (h : b.Relates b')
    (same : ∀ subject object, b'.relation? verb subject object = b.relation? verb subject object)
    (hi : subject < b.beings.size) (limits : b.Limits verb subjectKind objectKind subject) :
    b'.Limits verb subjectKind objectKind subject := by
  have grows := h.advances.grows
  unfold Limits at limits ⊢
  simp only [candidates_eq grows h.size, same, grows.world]
  refine limits.imp_right ?_
  rintro ⟨member, denotes, demands⟩
  exact ⟨member, grows.denotes hi denotes, grows.demands demands⟩

section Mono

variable (h : b.Relates b') (covers : b.Covers verb)
include h covers

theorem Loops.mono (loops : b.Loops verb) : b'.Loops verb := by
  have grows := h.advances.grows
  refine ⟨?_, ?_⟩
  all_goals simp only [h.world, h.relation?_eq covers]
  · exact fun anti _ _ known => grows.demands (loops.antiReflexive anti known)
  · intro anti reflexive i p subjectKind objectKind hasSubject hasObject known
    have lt := (h.indexed (h.relation? known)).could.lt_size.1
    rw [h.size] at lt
    exact grows.mirrors lt (loops.reflexive anti reflexive hasSubject hasObject known)

theorem OneWay.mono (oneWay : b.OneWay verb) : b'.OneWay verb := by
  unfold OneWay
  simp only [h.world, h.relation?_eq covers]
  exact fun anti _ _ _ _ lt known known' =>
    h.advances.grows.demands (oneWay anti lt known known')

/-- What has been written down about a verb stays there. -/
theorem Governs.mono (governs : b.Governs verb) : b'.Governs verb where
  covers := h.covers covers
  loops := governs.loops.mono h covers
  oneWay := governs.oneWay.mono h covers
  limits := by
    intro subjectKind objectKind hasSubject hasObject subject mem
    rw [h.world] at hasSubject hasObject
    rw [h.candidates] at mem
    exact h.limits (h.relation?_eq covers) (mem_candidates_iff.mp mem).1
      (governs.limits hasSubject hasObject subject mem)

end Mono

/-- A verb without a signature relates nothing. -/
theorem Indexed.governs (indexed : b.Indexed)
    (unsigned : ∀ subjectKind objectKind, (b.world.verb verb).subjectKind = some subjectKind →
      (b.world.verb verb).objectKind = some objectKind → False) : b.Governs verb := by
  have none {subject object : Nat} : ¬ b.CouldRelate verb subject object := by
    rintro ⟨subjectKind, objectKind, hasSubject, hasObject, -⟩
    exact unsigned subjectKind objectKind hasSubject hasObject
  refine ⟨fun _ _ could => absurd could none, ⟨?_, ?_⟩, ?_, ?_⟩
  · exact fun _ _ _ known => absurd (indexed known).could none
  · exact fun _ _ _ _ _ _ _ _ known => absurd (indexed known).could none
  · exact fun _ _ _ _ _ _ known => absurd (indexed known).could none
  · exact fun {s o} hasSubject hasObject => (unsigned s o hasSubject hasObject).elim

namespace Valid

variable (valid : b.Valid)
include valid

theorem demands_addLoop (id : Id .verb) (verb : Verb) (subjectKind objectKind : Id .kind)
    (hi : i < b.beings.size) (known : b.relation? id i i = some p) :
    let b' := Blueprint.addLoop id verb subjectKind objectKind b i
    (verb.antiReflexive = true → b'.Demands (.clause [p.negative])) ∧
      (verb.antiReflexive = false → verb.reflexive = true →
        b'.Mirrors i subjectKind objectKind p) := by
  have own := valid.has_of_relation? known
  unfold Blueprint.addLoop
  rw [known]
  dsimp only
  split_ifs with anti reflexive
  · refine ⟨fun _ => ?_, fun isNot => by simp [anti] at isNot⟩
    exact (valid.advances_clause (List.forall_mem_singleton (a := p.negative).mpr own)).2
  · refine ⟨fun is => absurd is anti, fun _ _ => ?_⟩
    have both := valid.bothAre hi hi subjectKind objectKind
    have denotes := valid.denotes_bothAre hi hi subjectKind objectKind
    generalize Blueprint.bothAre i i subjectKind objectKind b = made at both denotes ⊢
    obtain ⟨s, o, b₁⟩ := made
    obtain ⟨made, hasSubject, hasObject⟩ := both
    obtain ⟨isSubject, isObject⟩ := denotes
    have own' : ∀ l ∈ [s.negate, o.negate, p.positive], b₁.problem.Has l.proposition := by
      simpa using ⟨hasSubject, hasObject, made.grows.problem.has own⟩
    obtain ⟨added, demands⟩ := made.valid.advances_clause own'
    have hi₁ := made.grows.lt_size hi
    exact ⟨s, o, added.grows.denotes hi₁ isSubject, added.grows.denotes hi₁ isObject, demands⟩
  · exact ⟨fun is => absurd is anti, fun _ is => absurd is reflexive⟩

omit valid in
theorem demands_addOneWay {id : Id .verb} {x y : Nat} (forward : b.relation? id x y = some p)
    (backward : b.relation? id y x = some q) :
    (Blueprint.addOneWay id b (x, y)).Demands
      (.between 0 1 [p.positive, q.positive].eraseDups) := by
  unfold Blueprint.addOneWay
  simp only [forward, backward]
  exact Problem.mem_constraints_add.mpr (.inr rfl)

theorem limits_addBounds (verb : Id .verb) (hi : i < b.beings.size) :
    (Blueprint.addBounds verb (b.world.verb verb) subjectKind (b.candidates objectKind) b i).Limits
      verb subjectKind objectKind i := by
  have quiet := quiet_addBounds verb (b.world.verb verb) subjectKind (b.candidates objectKind) b i
  have grows := (valid.addBounds hi verb (b.world.verb verb) subjectKind
    (b.candidates objectKind)).grows
  have size := congrArg Array.size quiet.beings
  obtain ⟨made, names⟩ := valid.isOf hi subjectKind
  unfold Limits
  rw [candidates_eq grows size]
  simp only [quiet.relation?, quiet.world]
  unfold Blueprint.addBounds
  dsimp only
  split_ifs with unbounded
  · rw [Bool.and_eq_true, decide_eq_true_eq, decide_eq_true_eq] at unbounded
    exact .inl unbounded
  · generalize b.isOf i subjectKind = result at made names ⊢
    obtain ⟨member, b₁⟩ := result
    exact .inr ⟨member.positive, (extends_modifyProblem_add b₁ _).denotes (made.grows.lt_size hi)
      names.positive, Problem.mem_constraints_add.mpr (.inr rfl)⟩

section Signature

variable (indexed : b.Indexed) (hasSubject : (b.world.verb verb).subjectKind = some subjectKind)
  (hasObject : (b.world.verb verb).objectKind = some objectKind)
include indexed hasSubject hasObject

/-- All pairs that the signature admits are related. -/
theorem relates_pairs :
    let b' := (pairs (b.candidates subjectKind) (b.candidates objectKind)).foldl
      (fun b' (subject, object) =>
        Blueprint.addPair verb (b.world.verb verb) subjectKind objectKind subject object b') b
    b.Relates b' ∧ b'.Covers verb := by
  obtain ⟨relates, related⟩ := Relates.foldl_done
    (f := fun b' (pair : Nat × Nat) =>
      Blueprint.addPair verb (b.world.verb verb) subjectKind objectKind pair.1 pair.2 b')
    (pairs (b.candidates subjectKind) (b.candidates objectKind))
    (fun b' pair => ∃ p, b'.relation? verb pair.1 pair.2 = some p) valid indexed
    (fun _ later known => known.imp fun _ => later.relation?) fun b₁ h pair mem => by
      have world := h.advances.grows.world
      have among (kind : Id .kind) := candidates_eq h.advances.grows h.size kind
      rw [← world]
      refine h.advances.valid.relates_addPair h.indexed (world ▸ hasSubject) (world ▸ hasObject)
        ?_ ?_
      · exact among subjectKind ▸ (mem_pairs mem).1
      · exact among objectKind ▸ (mem_pairs mem).2
  refine ⟨relates, fun subject object could => ?_⟩
  obtain ⟨s, o, isSubject, isObject, hs, ho⟩ :=
    (couldRelate_iff relates.advances.grows relates.size).mp could
  obtain rfl := Option.some.inj (hasSubject.symm.trans isSubject)
  obtain rfl := Option.some.inj (hasObject.symm.trans isObject)
  exact related (subject, object) (List.mem_flatMap.mpr ⟨subject, hs, List.mem_map_of_mem ho⟩)

/-- Beings stand in the relation to themselves as the verb says. -/
theorem relates_loops (covers : b.Covers verb) :
    let b' := ((b.candidates subjectKind).filter (b.candidates objectKind).contains).foldl
      (Blueprint.addLoop verb (b.world.verb verb) subjectKind objectKind) b
    b.Relates b' ∧ b'.Loops verb := by
  obtain ⟨relates, done⟩ := Relates.foldl_done
    (f := Blueprint.addLoop verb (b.world.verb verb) subjectKind objectKind)
    ((b.candidates subjectKind).filter (b.candidates objectKind).contains)
    (fun b' i => i < b.beings.size ∧ ∀ p, b.relation? verb i i = some p →
      ((b.world.verb verb).antiReflexive = true → b'.Demands (.clause [p.negative])) ∧
        ((b.world.verb verb).antiReflexive = false → (b.world.verb verb).reflexive = true →
          b'.Mirrors i subjectKind objectKind p)) valid indexed
    (fun {b₁ b₂ i} h later ⟨lt, done⟩ => ⟨lt, fun p known => by
      obtain ⟨anti, reflexive⟩ := done p known
      have grows := later.advances.grows
      exact ⟨fun is => grows.demands (anti is), fun isNot is =>
        grows.mirrors (h.size ▸ lt) (reflexive isNot is)⟩⟩) fun b₁ h i mem => by
      have lt := lt_size_of_mem_candidates (List.mem_of_mem_filter mem)
      have lt₁ : i < b₁.beings.size := h.size ▸ lt
      refine ⟨(h.advances.valid.addLoop lt₁ verb _ subjectKind objectKind).relates
        (quiet_addLoop verb _ subjectKind objectKind b₁ i) h.indexed, lt, fun p known => ?_⟩
      exact h.advances.valid.demands_addLoop verb _ subjectKind objectKind lt₁ (h.relation? known)
  have among {i : Nat} {p : Proposition} (known : b.relation? verb i i = some p) :
      i ∈ (b.candidates subjectKind).filter (b.candidates objectKind).contains := by
    obtain ⟨s, o, isSubject, isObject, hs, ho⟩ := (indexed known).could
    obtain rfl := Option.some.inj (hasSubject.symm.trans isSubject)
    obtain rfl := Option.some.inj (hasObject.symm.trans isObject)
    exact List.mem_filter.mpr ⟨hs, List.contains_iff_mem.mpr ho⟩
  refine ⟨relates, ?_, ?_⟩
  all_goals simp only [relates.world, relates.relation?_eq covers]
  · exact fun anti _ p known => ((done _ (among known)).2 p known).1 anti
  · intro anti reflexive i p s o isSubject isObject known
    obtain rfl := Option.some.inj (hasSubject.symm.trans isSubject)
    obtain rfl := Option.some.inj (hasObject.symm.trans isObject)
    exact ((done i (among known)).2 p known).2 anti reflexive

omit hasObject in
/-- The relation does not hold both ways if the verb says so. -/
theorem relates_oneWays (covers : b.Covers verb) :
    let b' := if (b.world.verb verb).antiSymmetric then
        ((pairs (b.candidates subjectKind) (b.candidates subjectKind)).filter
          fun (x, y) => x < y).foldl (Blueprint.addOneWay verb) b
      else b
    b.Relates b' ∧ b'.OneWay verb := by
  dsimp only
  split_ifs with anti
  case neg => exact ⟨.refl valid indexed, fun is => absurd is anti⟩
  obtain ⟨relates, done⟩ := Relates.foldl_done (f := Blueprint.addOneWay verb)
    ((pairs (b.candidates subjectKind) (b.candidates subjectKind)).filter fun (x, y) => x < y)
    (fun b' pair => ∀ p q, b.relation? verb pair.1 pair.2 = some p →
      b.relation? verb pair.2 pair.1 = some q →
        b'.Demands (.between 0 1 [p.positive, q.positive].eraseDups)) valid indexed
    (fun _ later done p q known known' => later.advances.grows.demands (done p q known known'))
    fun b₁ h pair _ => by
      refine ⟨(h.advances.valid.addOneWay verb pair).relates (quiet_addOneWay verb b₁ pair)
        h.indexed, fun p q known known' => ?_⟩
      exact demands_addOneWay (h.relation? known) (h.relation? known')
  have subject {x y : Nat} {p : Proposition} (known : b.relation? verb x y = some p) :
      x ∈ b.candidates subjectKind := by
    obtain ⟨s, o, isSubject, isObject, hs, ho⟩ := (indexed known).could
    exact Option.some.inj (hasSubject.symm.trans isSubject) ▸ hs
  refine ⟨relates, ?_⟩
  unfold OneWay
  simp only [relates.relation?_eq covers]
  intro _ x y p q lt known known'
  refine done (x, y) (List.mem_filter.mpr ⟨?_, by simpa using lt⟩) p q known known'
  exact List.mem_flatMap.mpr ⟨x, subject known, List.mem_map_of_mem (subject known')⟩

omit hasSubject hasObject in
/-- The numbers of objects are within the verb's bounds. -/
theorem relates_limits (subjectKind objectKind : Id .kind) (covers : b.Covers verb) :
    let b' := (b.candidates subjectKind).foldl (Blueprint.addBounds verb (b.world.verb verb)
      subjectKind (b.candidates objectKind)) b
    b.Relates b' ∧ ∀ subject ∈ b.candidates subjectKind,
      b'.Limits verb subjectKind objectKind subject := by
  have same {b' : Blueprint} (h : b.Relates b') := h.relation?_eq covers
  obtain ⟨relates, done⟩ := Relates.foldl_done (f := Blueprint.addBounds verb (b.world.verb verb)
      subjectKind (b.candidates objectKind)) (b.candidates subjectKind)
    (fun b' subject => subject < b.beings.size ∧ b'.Limits verb subjectKind objectKind subject)
    valid indexed (fun h later ⟨lt, limits⟩ => ⟨lt, later.limits
      (fun s o => (same (h.trans later) s o).trans (same h s o).symm) (h.size ▸ lt) limits⟩)
    fun b₁ h i mem => by
      have lt := lt_size_of_mem_candidates mem
      have lt₁ : i < b₁.beings.size := h.size ▸ lt
      rw [← h.candidates objectKind, ← h.world]
      refine ⟨(h.advances.valid.addBounds lt₁ verb _ subjectKind _).relates
        (quiet_addBounds verb _ subjectKind _ b₁ i) h.indexed, lt, ?_⟩
      exact h.advances.valid.limits_addBounds verb lt₁
  exact ⟨relates, fun subject mem => (done subject mem).2⟩

end Signature

/-- All that a verb by itself demands is written down: first its pairs, then its laws. -/
theorem relates_addVerb (indexed : b.Indexed) (verb : Id .verb) :
    b.Relates (Blueprint.addVerb b verb) ∧ (Blueprint.addVerb b verb).Governs verb := by
  unfold Blueprint.addVerb
  dsimp only
  split
  case h_2 unsigned => exact ⟨.refl valid indexed, indexed.governs unsigned⟩
  case h_1 subjectKind objectKind hasSubject hasObject =>
    obtain ⟨paired, covers₁⟩ := valid.relates_pairs indexed hasSubject hasObject
    generalize (pairs (b.candidates subjectKind) (b.candidates objectKind)).foldl _ b = b₁
      at paired covers₁ ⊢
    rw [← paired.world] at hasSubject hasObject ⊢
    rw [← paired.candidates, ← paired.candidates]
    obtain ⟨looped, loops⟩ :=
      paired.advances.valid.relates_loops paired.indexed hasSubject hasObject covers₁
    have covers₂ := looped.covers covers₁
    generalize ((b₁.candidates subjectKind).filter (b₁.candidates objectKind).contains).foldl _ b₁ =
      b₂ at looped loops covers₂ ⊢
    rw [← looped.world] at hasSubject hasObject ⊢
    rw [← looped.candidates, ← looped.candidates]
    obtain ⟨tied, oneWay⟩ :=
      looped.advances.valid.relates_oneWays looped.indexed hasSubject covers₂
    have covers₃ := tied.covers covers₂
    dsimp only at tied oneWay
    generalize (if (b₂.world.verb verb).antiSymmetric then
      ((pairs (b₂.candidates subjectKind) (b₂.candidates subjectKind)).filter
        fun (x, y) => x < y).foldl (Blueprint.addOneWay verb) b₂ else b₂) = b₃
      at tied oneWay covers₃ ⊢
    rw [← tied.world] at hasSubject hasObject ⊢
    rw [← tied.candidates, ← tied.candidates]
    obtain ⟨limited, limits⟩ :=
      tied.advances.valid.relates_limits tied.indexed subjectKind objectKind covers₃
    generalize (b₃.candidates subjectKind).foldl _ b₃ = b₄ at limited limits ⊢
    have lasts := tied.trans limited
    refine ⟨paired.trans (looped.trans lasts), ?_⟩
    refine ⟨limited.covers covers₃, loops.mono lasts covers₂, oneWay.mono limited covers₃, ?_⟩
    intro s o isSubject isObject subject mem
    rw [limited.world, hasSubject, Option.some.injEq] at isSubject
    rw [limited.world, hasObject, Option.some.injEq] at isObject
    subst isSubject isObject
    rw [limited.candidates] at mem
    exact limits subject mem

end Valid

/-! ## The laws between verbs -/

/-- Whether all that a relation has to do with other verbs has been written down. -/
structure Ties (b : Blueprint) (r : Relation) : Prop where
  general : ∀ general ∈ (b.world.verb r.verb).generalizations ++ (b.world.verb r.verb).superspecies,
    (∃ q, b.relation? general r.subject r.object = some q ∧
      b.Demands (.clause [r.proposition.negative, q.positive].eraseDups)) ∨
    b.Demands (.clause [r.proposition.negative])
  excluded : ∀ other ∈ (b.world.verb r.verb).exclusions, r.verb.index < other.index →
    ∀ q, b.relation? other r.subject r.object = some q →
      b.Demands (.between 0 1 [r.proposition.positive, q.positive].eraseDups)
  ways : ∀ possible, ((b.world.verb r.verb).subspecies.filterMap fun way =>
      b.relation? way r.subject r.object) = possible → 1 < possible.length →
    b.Demands (.between 0 1 (possible.map Proposition.positive).eraseDups)

/-- Where all pairs have their propositions, what ties a relation to others goes on doing so. -/
theorem Ties.mono {r : Relation} (ties : b.Ties r) (h : b.Relates b')
    (settled : ∀ verb, b.Covers verb) : b'.Ties r := by
  have same (verb : Id .verb) := h.relation?_eq (settled verb)
  have grows := h.advances.grows
  refine ⟨?_, ?_, ?_⟩
  all_goals simp only [grows.world, same]
  · intro general mem
    refine (ties.general general mem).imp ?_ grows.demands
    rintro ⟨q, known, demands⟩
    exact ⟨q, known, grows.demands demands⟩
  · exact fun other mem lt q known => grows.demands (ties.excluded other mem lt q known)
  · exact fun possible known some_ways => grows.demands (ties.ways possible known some_ways)

namespace Valid

variable {r : Relation} (valid : b.Valid) (indexed : b.Indexed) (settled : ∀ verb, b.Covers verb)
  (own : b.problem.Has r.proposition)
include valid indexed settled own

omit settled in
theorem relates_addGeneral (general : Id .verb) :
    let b' := Blueprint.addGeneral r b general
    b.Relates b' ∧ ((∃ q, b.relation? general r.subject r.object = some q ∧
        b'.Demands (.clause [r.proposition.negative, q.positive].eraseDups)) ∨
      b'.Demands (.clause [r.proposition.negative])) := by
  refine ⟨(valid.addGeneral own general).relates (quiet_addGeneral r b general) indexed, ?_⟩
  unfold Blueprint.addGeneral
  cases known : b.relation? general r.subject r.object with
  | none => exact .inr (Problem.mem_constraints_add.mpr (.inr rfl))
  | some q => exact .inl ⟨q, rfl, Problem.mem_constraints_add.mpr (.inr rfl)⟩

omit settled in
theorem relates_addExcluded (other : Id .verb) :
    let b' := Blueprint.addExcluded r b other
    b.Relates b' ∧ (r.verb.index < other.index → ∀ q,
      b.relation? other r.subject r.object = some q →
        b'.Demands (.between 0 1 [r.proposition.positive, q.positive].eraseDups)) := by
  refine ⟨(valid.addExcluded own other).relates (quiet_addExcluded r b other) indexed, ?_⟩
  intro lt q known
  unfold Blueprint.addExcluded
  rw [if_neg (Nat.not_le.mpr lt), known]
  exact Problem.mem_constraints_add.mpr (.inr rfl)

theorem relates_tieRelation :
    let b' := Blueprint.tieRelation (b.world.verb r.verb) b r
    b.Relates b' ∧ b'.Ties r := by
  have same {b' : Blueprint} (h : b.Relates b') (verb : Id .verb) := h.relation?_eq (settled verb)
  obtain ⟨first, general⟩ := Relates.foldl_done (f := Blueprint.addGeneral r)
    ((b.world.verb r.verb).generalizations ++ (b.world.verb r.verb).superspecies)
    (fun b' general => (∃ q, b.relation? general r.subject r.object = some q ∧
        b'.Demands (.clause [r.proposition.negative, q.positive].eraseDups)) ∨
      b'.Demands (.clause [r.proposition.negative])) valid indexed
    (fun _ later => Or.imp (fun ⟨q, known, demands⟩ =>
      ⟨q, known, later.advances.grows.demands demands⟩) later.advances.grows.demands)
    fun b₁ h general _ => by
      have added := h.advances.valid.relates_addGeneral h.indexed
        (h.advances.grows.problem.has own) general
      rwa [same h] at added
  unfold Blueprint.tieRelation
  dsimp only
  generalize List.foldl (Blueprint.addGeneral r) b _ = b₁ at first general ⊢
  obtain ⟨second, excluded⟩ := Relates.foldl_done (f := Blueprint.addExcluded r)
    (b.world.verb r.verb).exclusions
    (fun b' other => r.verb.index < other.index → ∀ q,
      b.relation? other r.subject r.object = some q →
        b'.Demands (.between 0 1 [r.proposition.positive, q.positive].eraseDups))
    first.advances.valid first.indexed
    (fun _ later done lt q known => later.advances.grows.demands (done lt q known))
    fun b₂ h other _ => by
      have added := h.advances.valid.relates_addExcluded h.indexed
        ((first.trans h).advances.grows.problem.has own) other
      rwa [same (first.trans h)] at added
  generalize List.foldl (Blueprint.addExcluded r) b₁ _ = b₂ at second excluded ⊢
  have to₂ := first.trans second
  have third := (to₂.advances.valid.addWays r (b.world.verb r.verb).subspecies).relates
    (quiet_addWays r _ b₂) to₂.indexed
  have ways : ∀ possible, ((b.world.verb r.verb).subspecies.filterMap fun way =>
        b.relation? way r.subject r.object) = possible → 1 < possible.length →
      (Blueprint.addWays r (b.world.verb r.verb).subspecies b₂).Demands
        (.between 0 1 (possible.map Proposition.positive).eraseDups) := by
    rintro possible rfl some_ways
    unfold Blueprint.addWays
    simp only [same to₂]
    rw [if_pos some_ways]
    exact Problem.mem_constraints_add.mpr (.inr rfl)
  have all := to₂.trans third
  refine ⟨all, ?_, ?_, ?_⟩
  all_goals simp only [all.advances.grows.world, same all]
  · intro other mem
    refine (general other mem).imp ?_ (second.trans third).advances.grows.demands
    rintro ⟨q, known, demands⟩
    exact ⟨q, known, (second.trans third).advances.grows.demands demands⟩
  · exact fun other mem lt q known => third.advances.grows.demands (excluded other mem lt q known)
  · exact ways

omit own in
theorem relates_tieVerb (verb : Id .verb) :
    let b' := Blueprint.tieVerb b verb
    b.Relates b' ∧ ∀ r ∈ b.relations.toList, r.verb = verb → b'.Ties r := by
  obtain ⟨relates, done⟩ := Relates.foldl_done (f := Blueprint.tieRelation (b.world.verb verb))
    (b.relations.toList.filter (·.verb == verb)) (fun b' r => b'.Ties r) valid indexed
    (fun h later ties => ties.mono later fun verb => h.covers (settled verb))
    fun b₁ h r mem => by
      obtain ⟨known, same⟩ := List.mem_filter.mp mem
      obtain rfl := beq_iff_eq.mp same
      rw [← h.advances.grows.world]
      exact h.advances.valid.relates_tieRelation h.indexed (fun verb => h.covers (settled verb))
        (h.advances.valid.relations r (h.relations r known))
  exact ⟨relates, fun r mem same => done r (List.mem_filter.mpr ⟨mem, beq_iff_eq.mpr same⟩)⟩

end Valid

/-- Relating the beings writes down all that the verbs of the world demand of them. -/
theorem related_addRelations (valid : b.Valid) (indexed : b.Indexed) :
    b.Relates b.addRelations ∧ (∀ verb, b.addRelations.Governs verb) ∧
      ∀ verb subject object p, b.addRelations.relation? verb subject object = some p →
        b.addRelations.Ties ⟨verb, subject, object, p⟩ := by
  obtain ⟨first, governed⟩ := Relates.foldl_done (f := addVerb) b.world.verbIds
    (fun b' verb => b'.Governs verb) valid indexed
    (fun _ later governs => governs.mono later governs.covers)
    fun b₁ h verb _ => h.advances.valid.relates_addVerb h.indexed verb
  unfold addRelations
  dsimp only
  generalize b.world.verbIds.foldl addVerb b = b₁ at first governed ⊢
  have world := first.advances.grows.world
  have inside {verb : Id .verb} {kind : Id .kind}
      (signed : (b.world.verb verb).subjectKind = some kind) : verb ∈ b.world.verbIds :=
    World.mem_verbIds_iff.mpr (World.lt_size_of_subjectKind signed)
  have governs (verb : Id .verb) : b₁.Governs verb := by
    by_cases mem : verb ∈ b.world.verbIds
    · exact governed verb mem
    · exact Indexed.governs (b := b₁) first.indexed fun _ _ hasSubject _ =>
        mem (inside (world ▸ hasSubject))
  obtain ⟨second, tied⟩ := Relates.foldl_done (f := tieVerb) b.world.verbIds
    (fun b' verb => ∀ r ∈ b₁.relations.toList, r.verb = verb → b'.Ties r) first.advances.valid
    first.indexed (fun h later ties r mem same => (ties r mem same).mono later fun verb =>
      h.covers (governs verb).covers) fun b₂ h verb _ => by
      obtain ⟨relates, ties⟩ := h.advances.valid.relates_tieVerb h.indexed
        (fun verb => h.covers (governs verb).covers) verb
      exact ⟨relates, fun r mem same => ties r (h.relations r mem) same⟩
  refine ⟨first.trans second, fun verb => (governs verb).mono second (governs verb).covers, ?_⟩
  intro verb subject object p known
  rw [second.relation?_eq (governs verb).covers] at known
  have links := first.indexed known
  obtain ⟨_, _, signed, -⟩ := links.could
  exact tied verb (inside (world ▸ signed)) _ links.recorded rfl

end Blueprint

end Worldsmith
