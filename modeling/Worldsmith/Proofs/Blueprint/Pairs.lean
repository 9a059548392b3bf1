import Worldsmith.Proofs.Blueprint.Quiet
import Worldsmith.Proofs.Blueprint.Relations

/-!
# Pairs of beings

A verb has a proposition for each pair of beings that its signature admits, and for no other pair.
What the signature demands follows from the proposition.

## Main definitions

* `Blueprint.Links` — a proposition says that a verb relates two beings, with all that follows.
* `Blueprint.Relates` — a blueprint comes from another by steps that only relate its beings.

## Main statements

* `Blueprint.Valid.relates_addPair` — a pair that is added is related, and nothing else comes to be.
-/

namespace Worldsmith

namespace World

variable {world : World} {verb : Id .verb}

theorem mem_verbIds_iff : verb ∈ world.verbIds ↔ verb.index < world.verbs.size := by
  obtain ⟨i⟩ := verb
  simp [verbIds, Id.upTo]

/-- Only verbs of the world have signatures. -/
theorem lt_size_of_subjectKind {kind : Id .kind}
    (signed : (world.verb verb).subjectKind = some kind) : verb.index < world.verbs.size := by
  by_contra outside
  have none : (default : Verb).subjectKind = none := rfl
  simp [World.verb, Array.getD_eq_getD_getElem?, Array.getElem?_eq_none (Nat.le_of_not_lt outside),
    none] at signed

end World

namespace Blueprint

variable {b b' last : Blueprint} {i subject object : Nat} {premise l : Literal} {p q : Proposition}
  {verb : Id .verb} {subjectKind objectKind : Id .kind} {trait : Trait}

/-! ## What follows from a relation -/

/-- Whether a being has to have a trait where a literal holds. -/
def Requires (b : Blueprint) (premise : Literal) (i : Nat) (trait : Trait) : Prop :=
  ∃ l, b.Denotes l i trait ∧ b.Demands (.clause [premise.negate, l].eraseDups)

/-- Whether a verb could relate two beings. -/
def CouldRelate (b : Blueprint) (verb : Id .verb) (subject object : Nat) : Prop :=
  ∃ subjectKind objectKind, (b.world.verb verb).subjectKind = some subjectKind ∧
    (b.world.verb verb).objectKind = some objectKind ∧
    subject ∈ b.candidates subjectKind ∧ object ∈ b.candidates objectKind

/-- The name of the proposition that a verb relates two beings. -/
def relationName (b : Blueprint) (verb : Id .verb) (subject object : Nat) : String :=
  Problem.binaryName (b.world.verbName verb) (b.being subject).name (b.being object).name
    (b.world.verb verb).symmetric

/-- Whether two beings have to be of the subject and the object kind where a literal holds. -/
def RequiresKinds (b : Blueprint) (premise : Literal) (verb : Id .verb) (subject object : Nat) :
    Prop :=
  ∀ subjectKind objectKind, (b.world.verb verb).subjectKind = some subjectKind →
    (b.world.verb verb).objectKind = some objectKind →
      b.Requires premise subject ⟨.kind subjectKind, true⟩ ∧
        b.Requires premise object ⟨.kind objectKind, true⟩

/-- Whether all that a verb demands of two beings has to hold where a literal does. In a symmetric
relation both beings are of both kinds. -/
structure RequiresPair (b : Blueprint) (premise : Literal) (verb : Id .verb)
    (subject object : Nat) : Prop where
  kinds : b.RequiresKinds premise verb subject object
  converse : (b.world.verb verb).symmetric = true → b.RequiresKinds premise verb object subject
  subjectModifiers : ∀ trait ∈ (b.world.verb verb).subjectModifiers,
    b.Requires premise subject trait
  objectModifiers : ∀ trait ∈ (b.world.verb verb).objectModifiers,
    b.Requires premise object trait

/-- Whether a proposition says that a verb relates two beings, and what follows from it has been
written down. -/
structure Links (b : Blueprint) (verb : Id .verb) (subject object : Nat) (p : Proposition) : Prop
    extends b.RequiresPair p.positive verb subject object where
  could : b.CouldRelate verb subject object
  name? : b.problem.name? p = some (b.relationName verb subject object)
  recorded : ⟨verb, subject, object, p⟩ ∈ b.relations.toList

/-- Whether all that is indexed as a relation is one. -/
def Indexed (b : Blueprint) : Prop :=
  ∀ {verb : Id .verb} {subject object : Nat} {p : Proposition},
    b.relation? verb subject object = some p → b.Links verb subject object p

/-- Whether all pairs that a verb could relate have a proposition. -/
def Covers (b : Blueprint) (verb : Id .verb) : Prop :=
  ∀ subject object, b.CouldRelate verb subject object →
    ∃ p, b.relation? verb subject object = some p

theorem mem_candidates_iff {kind : Id .kind} :
    i ∈ b.candidates kind ↔ i < b.beings.size ∧ b.couldBe i kind = true := by
  simp [candidates]

theorem CouldRelate.lt_size (h : b.CouldRelate verb subject object) :
    subject < b.beings.size ∧ object < b.beings.size := by
  obtain ⟨_, _, -, -, hs, ho⟩ := h
  exact ⟨(mem_candidates_iff.mp hs).1, (mem_candidates_iff.mp ho).1⟩

theorem extends_modifyProblem_add (b : Blueprint) (constraint : Constraint) :
    b.Extends (b.modifyProblem (·.add constraint)) :=
  ⟨rfl, Problem.extends_add _ _, Nat.le_refl _, fun _ _ => rfl, fun _ => id, fun _ => id⟩

theorem Extends.requires (h : b.Extends b') (hi : i < b.beings.size)
    (requires : b.Requires premise i trait) : b'.Requires premise i trait := by
  obtain ⟨l, denotes, demands⟩ := requires
  exact ⟨l, h.denotes hi denotes, h.demands demands⟩

section Grow

variable (grows : b.Extends b') (size : b'.beings.size = b.beings.size)
include grows size

theorem candidates_eq (kind : Id .kind) : b'.candidates kind = b.candidates kind := by
  rw [candidates, candidates, size]
  refine List.filter_congr fun i mem => ?_
  exact grows.couldBe_eq (List.mem_range.mp mem) kind

theorem couldRelate_iff :
    b'.CouldRelate verb subject object ↔ b.CouldRelate verb subject object := by
  simp only [CouldRelate, candidates_eq grows size, grows.world]

omit size in
theorem RequiresKinds.mono (requires : b.RequiresKinds premise verb subject object)
    (lt : subject < b.beings.size ∧ object < b.beings.size) :
    b'.RequiresKinds premise verb subject object := by
  intro subjectKind objectKind hs ho
  rw [grows.world] at hs ho
  obtain ⟨first, second⟩ := requires subjectKind objectKind hs ho
  exact ⟨grows.requires lt.1 first, grows.requires lt.2 second⟩

omit size in
theorem RequiresPair.mono (requires : b.RequiresPair premise verb subject object)
    (lt : subject < b.beings.size ∧ object < b.beings.size) :
    b'.RequiresPair premise verb subject object := by
  refine ⟨requires.kinds.mono grows lt, ?_, ?_, ?_⟩
  all_goals rw [grows.world]
  · exact fun symmetric => (requires.converse symmetric).mono grows lt.symm
  · exact fun trait mem => grows.requires lt.1 (requires.subjectModifiers trait mem)
  · exact fun trait mem => grows.requires lt.2 (requires.objectModifiers trait mem)

omit size in
theorem relationName_eq (lt : subject < b.beings.size ∧ object < b.beings.size) :
    b'.relationName verb subject object = b.relationName verb subject object := by
  rw [relationName, relationName, grows.world, grows.name_eq lt.1, grows.name_eq lt.2]

/-- What follows from a relation goes on following. -/
theorem Links.mono (links : b.Links verb subject object p)
    (relations : ∀ r ∈ b.relations.toList, r ∈ b'.relations.toList) :
    b'.Links verb subject object p where
  toRequiresPair := links.toRequiresPair.mono grows links.could.lt_size
  could := (couldRelate_iff grows size).mpr links.could
  name? := by
    rw [relationName_eq grows links.could.lt_size]
    exact grows.problem.name?_eq_some links.name?
  recorded := relations _ links.recorded

end Grow

/-! ## Steps that relate beings -/

/-- A blueprint comes from another by steps that only relate its beings. -/
structure Relates (b b' : Blueprint) : Prop where
  advances : b.Advances b'
  size : b'.beings.size = b.beings.size
  relation? : ∀ {verb : Id .verb} {subject object : Nat} {p : Proposition},
    b.relation? verb subject object = some p → b'.relation? verb subject object = some p
  relations : ∀ r ∈ b.relations.toList, r ∈ b'.relations.toList
  indexed : b'.Indexed

namespace Relates

theorem refl (valid : b.Valid) (indexed : b.Indexed) : b.Relates b :=
  ⟨.refl valid, rfl, id, fun _ => id, indexed⟩

theorem trans (h : b.Relates b') (g : b'.Relates last) : b.Relates last where
  advances := h.advances.trans g.advances
  size := g.size.trans h.size
  relation? known := g.relation? (h.relation? known)
  relations r mem := g.relations r (h.relations r mem)
  indexed := g.indexed

theorem foldl_done {α : Type} {f : Blueprint → α → Blueprint} (xs : List α)
    (done : Blueprint → α → Prop) (valid : b.Valid) (indexed : b.Indexed)
    (lasts : ∀ {b₁ b₂ : Blueprint} {x : α}, b.Relates b₁ → b₁.Relates b₂ → done b₁ x → done b₂ x)
    (step : ∀ b₁, b.Relates b₁ → ∀ x ∈ xs, b₁.Relates (f b₁ x) ∧ done (f b₁ x) x) :
    b.Relates (xs.foldl f b) ∧ ∀ x ∈ xs, done (xs.foldl f b) x :=
  Worldsmith.foldl_done xs done trans (refl valid indexed)
    (fun h => refl h.advances.valid h.indexed) lasts step

theorem world (h : b.Relates b') : b'.world = b.world := h.advances.grows.world

theorem candidates (h : b.Relates b') (kind : Id .kind) : b'.candidates kind = b.candidates kind :=
  candidates_eq h.advances.grows h.size kind

end Relates

/-- A step that only changes the problem relates no others. -/
theorem Advances.relates (h : b.Advances b') (quiet : b.Quiet b') (indexed : b.Indexed) :
    b.Relates b' := by
  have size : b'.beings.size = b.beings.size := congrArg Array.size quiet.beings
  have relations : ∀ r ∈ b.relations.toList, r ∈ b'.relations.toList := by
    rw [quiet.relations]
    exact fun _ => id
  refine ⟨h, size, ?_, relations, ?_⟩
  · intro verb subject object p known
    rw [quiet.relation?, known]
  · intro verb subject object p known
    rw [quiet.relation?] at known
    exact (indexed known).mono h.grows size relations

namespace Valid

variable (valid : b.Valid)
include valid

/-! ## A pair of beings -/

theorem requires_literal (own : b.problem.Has premise.proposition) (denotes : b.Denotes l i trait)
    (hi : i < b.beings.size) :
    b.Advances (b.modifyProblem (·.implies premise l)) ∧
      (b.modifyProblem (·.implies premise l)).Requires premise i trait := by
  have own' : ∀ l' ∈ [premise.negate, l], b.problem.Has l'.proposition := by
    simpa using ⟨own, denotes.has⟩
  obtain ⟨added, demands⟩ := valid.advances_clause own'
  exact ⟨added, l, added.grows.denotes hi denotes, demands⟩

theorem requires_demandTraits (own : b.problem.Has premise.proposition) (hi : i < b.beings.size)
    (traits : List Trait) :
    ∀ trait ∈ traits, (Blueprint.demandTraits premise i traits b).Requires premise i trait :=
  (Advances.foldl_done traits (fun b trait => b.Requires premise i trait) valid
    (fun grows later => later.requires (grows.lt_size hi)) fun b₁ h trait _ => by
      have hi₁ := h.grows.lt_size hi
      obtain ⟨made, denotes⟩ := h.valid.literal hi₁ trait
      obtain ⟨added, requires⟩ := made.valid.requires_literal
        ((h.trans made).grows.problem.has own) denotes (made.grows.lt_size hi₁)
      exact ⟨made.trans added, requires⟩).2

theorem denotes_bothAre (hs : subject < b.beings.size) (ho : object < b.beings.size)
    (subjectKind objectKind : Id .kind) :
    let (s, o, b') := Blueprint.bothAre subject object subjectKind objectKind b
    b'.Denotes s subject ⟨.kind subjectKind, true⟩ ∧
      b'.Denotes o object ⟨.kind objectKind, true⟩ := by
  obtain ⟨first, names⟩ := valid.isOf hs subjectKind
  obtain ⟨second, names'⟩ := first.valid.isOf (first.grows.lt_size ho) objectKind
  unfold Blueprint.bothAre
  exact ⟨(second.grows.names (first.grows.lt_size hs) names).positive, names'.positive⟩

theorem requires_demandKinds (own : b.problem.Has premise.proposition)
    (hs : subject < b.beings.size) (ho : object < b.beings.size)
    (subjectKind objectKind : Id .kind) :
    let b' := Blueprint.demandKinds premise subject object subjectKind objectKind b
    b'.Requires premise subject ⟨.kind subjectKind, true⟩ ∧
      b'.Requires premise object ⟨.kind objectKind, true⟩ := by
  have both := valid.bothAre hs ho subjectKind objectKind
  have denotes := valid.denotes_bothAre hs ho subjectKind objectKind
  unfold Blueprint.demandKinds
  generalize Blueprint.bothAre subject object subjectKind objectKind b = made at both denotes ⊢
  obtain ⟨s, o, b₁⟩ := made
  obtain ⟨made, -, -⟩ := both
  obtain ⟨subjectIs, objectIs⟩ := denotes
  have own₁ := made.grows.problem.has own
  have hs₁ := made.grows.lt_size hs
  have ho₁ := made.grows.lt_size ho
  obtain ⟨first, required⟩ := made.valid.requires_literal own₁ subjectIs hs₁
  obtain ⟨second, required'⟩ := first.valid.requires_literal (first.grows.problem.has own₁)
    (first.grows.denotes ho₁ objectIs) (first.grows.lt_size ho₁)
  exact ⟨second.grows.requires (first.grows.lt_size hs₁) required, required'⟩

end Valid

/-- Whether something can be demanded of two beings where a literal holds. -/
structure Ready (b : Blueprint) (premise : Literal) (subject object : Nat) : Prop where
  valid : b.Valid
  own : b.problem.Has premise.proposition
  subject : subject < b.beings.size
  object : object < b.beings.size

/-- Write down all that a verb demands of two beings where a literal holds. -/
def demandPair (premise : Literal) (verb : Verb) (subjectKind objectKind : Id .kind)
    (subject object : Nat) (b : Blueprint) : Blueprint :=
  let b₁ := demandKinds premise subject object subjectKind objectKind b
  let b₂ := if verb.symmetric then
      demandKinds premise object subject subjectKind objectKind b₁
    else b₁
  let b₃ := demandTraits premise subject verb.subjectModifiers b₂
  demandTraits premise object verb.objectModifiers b₃

theorem quiet_demandPair (premise : Literal) (verb : Verb) (subjectKind objectKind : Id .kind)
    (subject object : Nat) (b : Blueprint) :
    b.Quiet (b.demandPair premise verb subjectKind objectKind subject object) := by
  have forth := quiet_demandKinds premise subject object subjectKind objectKind b
  refine (Quiet.trans ?_ (quiet_demandTraits _ _ _ _)).trans (quiet_demandTraits _ _ _ _)
  split_ifs
  · exact forth.trans (quiet_demandKinds _ _ _ _ _ _)
  · exact forth

namespace Ready

variable (ready : b.Ready premise subject object)
include ready

theorem symm : b.Ready premise object subject :=
  ⟨ready.valid, ready.own, ready.object, ready.subject⟩

theorem advance (h : b.Advances b') : b'.Ready premise subject object :=
  ⟨h.valid, h.grows.problem.has ready.own, h.grows.lt_size ready.subject,
    h.grows.lt_size ready.object⟩

theorem requires_demandKinds (hasSubject : (b.world.verb verb).subjectKind = some subjectKind)
    (hasObject : (b.world.verb verb).objectKind = some objectKind) :
    let b' := Blueprint.demandKinds premise subject object subjectKind objectKind b
    b.Advances b' ∧ b'.RequiresKinds premise verb subject object := by
  have made := ready.valid.demandKinds ready.own ready.subject ready.object subjectKind objectKind
  refine ⟨made, fun first second isFirst isSecond => ?_⟩
  rw [made.grows.world, hasSubject, Option.some.injEq] at isFirst
  rw [made.grows.world, hasObject, Option.some.injEq] at isSecond
  subst isFirst isSecond
  exact ready.valid.requires_demandKinds ready.own ready.subject ready.object subjectKind objectKind

/-- In a symmetric relation the same is demanded the other way round. -/
theorem requires_demandBack (hasSubject : (b.world.verb verb).subjectKind = some subjectKind)
    (hasObject : (b.world.verb verb).objectKind = some objectKind) :
    let b' := if (b.world.verb verb).symmetric then
        Blueprint.demandKinds premise object subject subjectKind objectKind b
      else b
    b.Advances b' ∧ ((b.world.verb verb).symmetric = true →
      b'.RequiresKinds premise verb object subject) := by
  dsimp only
  split_ifs with symmetric
  · obtain ⟨made, requires⟩ := ready.symm.requires_demandKinds hasSubject hasObject
    exact ⟨made, fun _ => requires⟩
  · exact ⟨.refl ready.valid, fun is => absurd is symmetric⟩

/-- All that a verb demands of two beings follows from the literal. -/
theorem requires_demandPair (hasSubject : (b.world.verb verb).subjectKind = some subjectKind)
    (hasObject : (b.world.verb verb).objectKind = some objectKind) :
    let b' := b.demandPair premise (b.world.verb verb) subjectKind objectKind subject object
    b.Advances b' ∧ b'.RequiresPair premise verb subject object := by
  obtain ⟨forth, kinds⟩ := ready.requires_demandKinds hasSubject hasObject
  have ready₁ := ready.advance forth
  unfold Blueprint.demandPair
  dsimp only
  generalize Blueprint.demandKinds premise subject object subjectKind objectKind b = b₁
    at forth kinds ready₁ ⊢
  rw [← forth.grows.world] at hasSubject hasObject ⊢
  obtain ⟨back, converse⟩ := ready₁.requires_demandBack hasSubject hasObject
  have ready₂ := ready₁.advance back
  generalize (if (b₁.world.verb verb).symmetric then
    Blueprint.demandKinds premise object subject subjectKind objectKind b₁ else b₁) = b₂
    at back converse ready₂ ⊢
  have third := ready₂.valid.demandTraits ready₂.own ready₂.subject
    (b₁.world.verb verb).subjectModifiers
  have modifiers := ready₂.valid.requires_demandTraits ready₂.own ready₂.subject
    (b₁.world.verb verb).subjectModifiers
  have ready₃ := ready₂.advance third
  generalize Blueprint.demandTraits premise subject (b₁.world.verb verb).subjectModifiers b₂ = b₃
    at third modifiers ready₃ ⊢
  have fourth := ready₃.valid.demandTraits ready₃.own ready₃.object
    (b₁.world.verb verb).objectModifiers
  have from₂ := third.trans fourth
  have from₁ := back.trans from₂
  refine ⟨forth.trans from₁, kinds.mono from₁.grows ⟨ready₁.subject, ready₁.object⟩, ?_, ?_, ?_⟩
  all_goals rw [from₁.grows.world]
  · exact fun symmetric =>
      (converse symmetric).mono from₂.grows ⟨ready₂.object, ready₂.subject⟩
  · exact fun trait mem => fourth.grows.requires ready₃.subject (modifiers trait mem)
  · exact ready₃.valid.requires_demandTraits ready₃.own ready₃.object
      (b₁.world.verb verb).objectModifiers

end Ready

/-- Make the proposition that a verb relates two beings. -/
def record (b : Blueprint) (verb : Id .verb) (subject object : Nat) : Proposition × Blueprint :=
  let (p, problem) := b.problem.proposition (b.relationName verb subject object)
  (p, { b with
    problem := problem.setPrior p (b.world.verb verb).density
    relations := b.relations.push ⟨verb, subject, object, p⟩
    relationIndex := b.relationIndex.insert (verb, subject, object) p })

theorem addPair_eq (b : Blueprint) (verb : Id .verb) (subjectKind objectKind : Id .kind)
    (subject object : Nat) :
    addPair verb (b.world.verb verb) subjectKind objectKind subject object b =
      (b.record verb subject object).2.demandPair (b.record verb subject object).1.positive
        (b.world.verb verb) subjectKind objectKind subject object := rfl

theorem relation?_record (b : Blueprint) (verb other : Id .verb) (subject object x y : Nat) :
    (b.record verb subject object).2.relation? other x y =
      if (verb, subject, object) = (other, x, y) then some (b.record verb subject object).1
      else b.relation? other x y := by
  simp only [relation?, record, Std.HashMap.getElem?_insert, beq_iff_eq]

theorem mem_relations_record (b : Blueprint) (verb : Id .verb) (subject object : Nat)
    (r : Relation) : r ∈ (b.record verb subject object).2.relations.toList ↔
      r ∈ b.relations.toList ∨ r = ⟨verb, subject, object, (b.record verb subject object).1⟩ := by
  simp [record]

theorem name?_record (b : Blueprint) (verb : Id .verb) (subject object : Nat) :
    (b.record verb subject object).2.problem.name? (b.record verb subject object).1 =
      some (b.relationName verb subject object) :=
  b.problem.name?_proposition (b.relationName verb subject object)

theorem Valid.advances_record (valid : b.Valid) (verb : Id .verb) (subject object : Nat) :
    b.Advances (b.record verb subject object).2 ∧
      (b.record verb subject object).2.problem.Has (b.record verb subject object).1 :=
  valid.addRelation (b.world.verbName verb) (b.being subject).name (b.being object).name
    (b.world.verb verb) verb subject object

/-- A pair of beings that a verb could relate is related, and nothing else is. -/
theorem Valid.relates_addPair (valid : b.Valid) (indexed : b.Indexed)
    (hasSubject : (b.world.verb verb).subjectKind = some subjectKind)
    (hasObject : (b.world.verb verb).objectKind = some objectKind)
    (hs : subject ∈ b.candidates subjectKind) (ho : object ∈ b.candidates objectKind) :
    let b' := Blueprint.addPair verb (b.world.verb verb) subjectKind objectKind subject object b
    b.Relates b' ∧ ∃ p, b'.relation? verb subject object = some p := by
  have lt : subject < b.beings.size ∧ object < b.beings.size :=
    ⟨(mem_candidates_iff.mp hs).1, (mem_candidates_iff.mp ho).1⟩
  obtain ⟨made, own⟩ := valid.advances_record verb subject object
  have known (v : Id .verb) (x y : Nat) := b.relation?_record verb v subject object x y
  have recorded := b.mem_relations_record verb subject object
  have named := b.name?_record verb subject object
  have size₁ : (b.record verb subject object).2.beings.size = b.beings.size := rfl
  rw [addPair_eq]
  generalize b.record verb subject object = step at made own known recorded named size₁ ⊢
  obtain ⟨p, b₁⟩ := step
  have ready : b₁.Ready p.positive subject object :=
    ⟨made.valid, own, made.grows.lt_size lt.1, made.grows.lt_size lt.2⟩
  rw [← made.grows.world] at hasSubject hasObject
  obtain ⟨finished, requires⟩ := ready.requires_demandPair hasSubject hasObject
  have quiet := quiet_demandPair p.positive (b₁.world.verb verb) subjectKind objectKind subject
    object b₁
  rw [← made.grows.world]
  dsimp only at made finished requires quiet known recorded named size₁ ⊢
  generalize b₁.demandPair p.positive _ subjectKind objectKind subject object = b₂
    at finished requires quiet ⊢
  have all := made.trans finished
  have size : b₂.beings.size = b.beings.size := (congrArg Array.size quiet.beings).trans size₁
  have grown : ∀ r ∈ b.relations.toList, r ∈ b₂.relations.toList := fun r mem => by
    rw [quiet.relations]
    exact (recorded r).mpr (.inl mem)
  have links : b₂.Links verb subject object p := by
    rw [made.grows.world] at hasSubject hasObject
    refine ⟨requires, ?_, ?_, ?_⟩
    · exact (couldRelate_iff all.grows size).mpr
        ⟨subjectKind, objectKind, hasSubject, hasObject, hs, ho⟩
    · rw [relationName_eq all.grows lt]
      exact finished.grows.problem.name?_eq_some named
    · rw [quiet.relations]
      exact (recorded _).mpr (.inr rfl)
  refine ⟨⟨all, size, ?_, grown, ?_⟩, p, ?_⟩
  · intro v x y q before
    rw [quiet.relation?, known]
    split_ifs with same
    · -- The pair was there before, and so its proposition is the same.
      obtain ⟨rfl, rfl, rfl⟩ := by simpa using same
      have same := (indexed before).name?
      exact congrArg some (Problem.eq_of_name? named (made.grows.problem.name?_eq_some same))
    · exact before
  · intro v x y q after
    rw [quiet.relation?, known] at after
    split_ifs at after with same
    · obtain ⟨rfl, rfl, rfl⟩ := by simpa using same
      obtain rfl := Option.some.inj after
      exact links
    · exact (indexed after).mono all.grows size grown
  · rw [quiet.relation?, known, if_pos rfl]

/-! ## The blueprint of a request -/

/-- What no work on beings changes holds of the beings of a request, if it is not about beings
either. -/
theorem IsInvariant.beingsOf {holds : Blueprint → Prop} (inv : IsInvariant holds) (world : World)
    (request : Request) (start : holds (ofWorld world))
    (beings : ∀ {b : Blueprint} (beings : Array Being), holds b →
      holds { b with beings := beings })
    (requested : ∀ {b : Blueprint} (requested : List Nat), holds b →
      holds { b with requested := requested }) : holds (Blueprint.beingsOf world request) := by
  have permanent {b : Blueprint} (id : Id .individual) (h : holds b) :
      holds (addPermanent (Blueprint.work (enoughFuel world)) b id) :=
    inv.declare (fun task _ => inv.work (enoughFuel world) task) _ _ _ (beings _ h)
  exact inv.addRequested requested request request.count
    (IsInvariant.foldl permanent world.individualIds start)

/-- Whether no beings have been related. -/
def Unrelated (b : Blueprint) : Prop :=
  ∀ key : Id .verb × Nat × Nat, b.relationIndex[key]? = none

/-- No work on beings relates any. -/
theorem isInvariant_unrelated : IsInvariant Unrelated where
  keeps kept none key := by
    rw [kept.relationIndex]
    exact none key
  withBeing {b} kind modifiers container depth none := by
    unfold withBeing
    cases declaredKinds b.world [kind] modifiers <;> exact none

theorem indexed_beingsOf (world : World) (request : Request) :
    (beingsOf world request).Indexed := by
  have none : (beingsOf world request).Unrelated := isInvariant_unrelated.beingsOf world request
    (fun key => by simp [ofWorld]) (fun _ h => h) fun _ h => h
  intro verb subject object p known
  exact absurd (known.symm.trans (none (verb, subject, object))) (by simp)

end Blueprint

end Worldsmith
