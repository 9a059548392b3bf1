import Worldsmith.Blueprint.Relations
import Worldsmith.Proofs.Blueprint.Beings

/-!
# Relating beings

Relations only make propositions and add constraints. Beings and memberships stay what they are, so
a blueprint that was complete is complete when its beings have been related.

## Main statements

* `Blueprint.complete_ofRequest` — everything in the blueprint of a request is written down in full.
-/

namespace Worldsmith

theorem Problem.comma_mem_binaryName (predicate first second : String) (symmetric : Bool) :
    ',' ∈ (binaryName predicate first second symmetric).toList := by
  simp [binaryName]

namespace Blueprint

variable {b : Blueprint} {i : Nat} {premise : Literal}

theorem lt_size_of_mem_candidates {kind : Id .kind} (mem : i ∈ b.candidates kind) :
    i < b.beings.size :=
  List.mem_range.mp (List.mem_of_mem_filter mem)

theorem mem_pairs {xs ys : List Nat} {pair : Nat × Nat} (mem : pair ∈ pairs xs ys) :
    pair.1 ∈ xs ∧ pair.2 ∈ ys := by
  obtain ⟨x, hx, mem⟩ := List.mem_flatMap.mp mem
  obtain ⟨y, hy, rfl⟩ := List.mem_map.mp mem
  exact ⟨hx, hy⟩

theorem has_of_mem_filterMap {α : Type} {xs : List α} {f : α → Option Proposition}
    (own : ∀ x p, f x = some p → b.problem.Has p) :
    ∀ l ∈ (xs.filterMap f).map Proposition.positive, b.problem.Has l.proposition := by
  intro l hl
  obtain ⟨p, hp, rfl⟩ := List.mem_map.mp hl
  obtain ⟨x, -, found⟩ := List.mem_filterMap.mp hp
  exact own x p found

namespace Valid

variable (valid : b.Valid)
include valid

theorem advances_implies {conclusion : Literal} (own : b.problem.Has premise.proposition)
    (own' : b.problem.Has conclusion.proposition) :
    b.Advances (b.modifyProblem (·.implies premise conclusion)) :=
  valid.advances_constraint (valid.built.implies own own')

theorem advances_atMost {literals : List Literal}
    (own : ∀ l ∈ literals, b.problem.Has l.proposition) :
    b.Advances (b.modifyProblem (·.atMost 1 literals)) :=
  valid.advances_constraint (valid.built.atMost 1 own)

theorem has_of_relation? {verb : Id .verb} {subject object : Nat} {p : Proposition}
    (known : b.relation? verb subject object = some p) : b.problem.Has p :=
  valid.relationIndex (verb, subject, object) p known

/-! ## What a relation demands -/

theorem demandTraits (own : b.problem.Has premise.proposition) (hi : i < b.beings.size)
    (traits : List Trait) : b.Advances (demandTraits premise i traits b) :=
  Advances.foldl traits (.refl valid) fun b₁ h trait _ => by
    obtain ⟨made, denotes⟩ := h.valid.literal (h.grows.lt_size hi) trait
    have own' := (h.trans made).grows.problem.has own
    exact made.trans (made.valid.advances_implies own' denotes.has)

theorem bothAre {subject object : Nat} (hs : subject < b.beings.size) (ho : object < b.beings.size)
    (subjectKind objectKind : Id .kind) :
    let (s, o, b') := bothAre subject object subjectKind objectKind b
    b.Advances b' ∧ b'.problem.Has s.proposition ∧ b'.problem.Has o.proposition := by
  obtain ⟨first, names⟩ := valid.isOf hs subjectKind
  obtain ⟨second, names'⟩ := first.valid.isOf (first.grows.lt_size ho) objectKind
  unfold Blueprint.bothAre
  dsimp only
  exact ⟨first.trans second, second.grows.problem.has names.has, names'.has⟩

theorem demandKinds (own : b.problem.Has premise.proposition) {subject object : Nat}
    (hs : subject < b.beings.size) (ho : object < b.beings.size)
    (subjectKind objectKind : Id .kind) :
    b.Advances (demandKinds premise subject object subjectKind objectKind b) := by
  have both := valid.bothAre hs ho subjectKind objectKind
  unfold Blueprint.demandKinds
  generalize Blueprint.bothAre subject object subjectKind objectKind b = made at both ⊢
  obtain ⟨s, o, b₁⟩ := made
  obtain ⟨made, subjectIs, objectIs⟩ := both
  have own' := made.grows.problem.has own
  have first := made.valid.advances_implies own' subjectIs
  exact made.trans (first.trans (first.valid.advances_implies own' objectIs))

/-- Recording a relation makes its proposition and changes nothing else. -/
theorem addRelation (name subject object : String) (verb : Verb) (id : Id .verb) (s o : Nat) :
    let (p, problem) := b.problem.binary name subject object verb.symmetric
    let b' := { b with
      problem := problem.setPrior p verb.density
      relations := b.relations.push ⟨id, s, o, p⟩
      relationIndex := b.relationIndex.insert (id, s, o) p }
    b.Advances b' ∧ b'.problem.Has p := by
  have grows := Problem.extends_proposition b.problem
    (Problem.binaryName name subject object verb.symmetric)
  have built := valid.built.proposition
    (Problem.binaryName name subject object verb.symmetric)
  have named := b.problem.name?_proposition
    (Problem.binaryName name subject object verb.symmetric)
  have old (q : Proposition) := @Problem.has_proposition b.problem q
    (Problem.binaryName name subject object verb.symmetric)
  unfold Problem.binary
  generalize b.problem.proposition (Problem.binaryName name subject object verb.symmetric) = made
    at grows built named old ⊢
  obtain ⟨p, problem⟩ := made
  have own := Problem.has_of_name? named
  refine ⟨valid.advances_of_same rfl rfl rfl (fun _ _ => rfl)
    (grows.trans (Problem.extends_setPrior _ _ _)) (built.setPrior p _) rfl rfl (fun _ _ => .inl)
    ?_ ?_ (fun _ _ _ => .inl) fun q own => (old q own).imp_right ?_, own⟩
  · intro r mem
    rcases Array.mem_push.mp (Array.mem_toList_iff.mp mem) with mem | rfl
    · exact .inl (Array.mem_toList_iff.mpr mem)
    · exact .inr own
  · intro key q known
    rw [Std.HashMap.getElem?_insert] at known
    split_ifs at known with same
    · exact .inr (Option.some.inj known ▸ own)
    · exact .inl known
  · rintro rfl
    exact .other named (.inl (Problem.comma_mem_binaryName _ _ _ _))

/-- What follows from a relation is written down once the relation has its proposition. -/
theorem demandPair (own : b.problem.Has premise.proposition) {subject object : Nat}
    (hs : subject < b.beings.size) (ho : object < b.beings.size)
    (verb : Verb) (subjectKind objectKind : Id .kind) :
    b.Advances
      (let b₁ := Blueprint.demandKinds premise subject object subjectKind objectKind b
      let b₂ := if verb.symmetric then
          Blueprint.demandKinds premise object subject subjectKind objectKind b₁
        else b₁
      let b₃ := Blueprint.demandTraits premise subject verb.subjectModifiers b₂
      Blueprint.demandTraits premise object verb.objectModifiers b₃) := by
  have forth := valid.demandKinds own hs ho subjectKind objectKind
  have back : b.Advances (if verb.symmetric then
      Blueprint.demandKinds premise object subject subjectKind objectKind
        (Blueprint.demandKinds premise subject object subjectKind objectKind b)
      else Blueprint.demandKinds premise subject object subjectKind objectKind b) := by
    split_ifs
    · exact forth.trans (forth.valid.demandKinds (forth.grows.problem.has own)
        (forth.grows.lt_size ho) (forth.grows.lt_size hs) subjectKind objectKind)
    · exact forth
  have subjectHas := back.trans (back.valid.demandTraits (back.grows.problem.has own)
    (back.grows.lt_size hs) verb.subjectModifiers)
  exact subjectHas.trans (subjectHas.valid.demandTraits (subjectHas.grows.problem.has own)
    (subjectHas.grows.lt_size ho) verb.objectModifiers)

theorem addPair {subject object : Nat} (hs : subject < b.beings.size)
    (ho : object < b.beings.size) (id : Id .verb) (verb : Verb)
    (subjectKind objectKind : Id .kind) :
    b.Advances (addPair id verb subjectKind objectKind subject object b) := by
  have related := valid.addRelation (untokenize verb.base) (b.being subject).name
    (b.being object).name verb id subject object
  unfold Blueprint.addPair
  generalize b.problem.binary (untokenize verb.base) (b.being subject).name (b.being object).name
    verb.symmetric = made at related ⊢
  obtain ⟨p, problem⟩ := made
  obtain ⟨made, own⟩ := related
  exact made.trans (made.valid.demandPair own (made.grows.lt_size hs) (made.grows.lt_size ho) verb
    subjectKind objectKind)

/-! ## The laws of a verb -/

theorem addLoop (hi : i < b.beings.size) (id : Id .verb) (verb : Verb)
    (subjectKind objectKind : Id .kind) :
    b.Advances (addLoop id verb subjectKind objectKind b i) := by
  unfold Blueprint.addLoop
  split
  · exact .refl valid
  case h_2 p known =>
    have own := valid.has_of_relation? known
    split_ifs
    · exact (valid.advances_clause (List.forall_mem_singleton (a := p.negative).mpr own)).1
    · have both := valid.bothAre hi hi subjectKind objectKind
      generalize Blueprint.bothAre i i subjectKind objectKind b = made at both ⊢
      obtain ⟨s, o, b₁⟩ := made
      obtain ⟨made, subjectIs, objectIs⟩ := both
      have own' : ∀ l ∈ [s.negate, o.negate, p.positive], b₁.problem.Has l.proposition := by
        simpa using ⟨subjectIs, objectIs, made.grows.problem.has own⟩
      exact made.trans (made.valid.advances_clause own').1
    · exact .refl valid

theorem addOneWay (id : Id .verb) (pair : Nat × Nat) : b.Advances (addOneWay id b pair) := by
  unfold Blueprint.addOneWay
  split
  case h_1 forward backward known known' =>
    refine valid.advances_atMost ?_
    simpa using ⟨valid.has_of_relation? known, valid.has_of_relation? known'⟩
  · exact .refl valid

theorem addBounds (hi : i < b.beings.size) (id : Id .verb) (verb : Verb) (subjectKind : Id .kind)
    (objects : List Nat) : b.Advances (addBounds id verb subjectKind objects b i) := by
  unfold Blueprint.addBounds
  dsimp only
  split_ifs with unbounded
  · exact .refl valid
  · obtain ⟨made, names⟩ := valid.isOf hi subjectKind
    exact made.trans (made.valid.advances_constraint
      (made.valid.built.quantifyIf _ _ names.has (has_of_mem_filterMap
        fun _ _ known => made.grows.problem.has (valid.has_of_relation? known))))

/-- All pairs are added first; nothing that follows adds beings. -/
theorem addVerb (id : Id .verb) : b.Advances (addVerb b id) := by
  unfold Blueprint.addVerb
  dsimp only
  split
  case h_2 => exact .refl valid
  case h_1 subjectKind objectKind _ _ =>
    have subject {i : Nat} : i ∈ b.candidates subjectKind → i < b.beings.size :=
      lt_size_of_mem_candidates
    have object {i : Nat} : i ∈ b.candidates objectKind → i < b.beings.size :=
      lt_size_of_mem_candidates
    generalize b.candidates subjectKind = subjects at subject ⊢
    generalize b.candidates objectKind = objects at object ⊢
    generalize b.world.verb id = verb
    have paired := Advances.foldl (pairs subjects objects) (.refl valid) fun b₁ h pair mem =>
      h.valid.addPair (h.grows.lt_size (subject (mem_pairs mem).1))
        (h.grows.lt_size (object (mem_pairs mem).2)) id verb subjectKind objectKind
    have looped := Advances.foldl (subjects.filter objects.contains) paired fun b₁ h i mem =>
      h.valid.addLoop (h.grows.lt_size (subject (List.mem_of_mem_filter mem))) id verb subjectKind
        objectKind
    refine .foldl _ ?_ fun b₁ h i mem =>
      h.valid.addBounds (h.grows.lt_size (subject mem)) id verb subjectKind objects
    split_ifs
    · exact .foldl _ looped fun b₁ h pair _ => h.valid.addOneWay id pair
    · exact looped

/-! ## The laws between verbs -/

theorem addGeneral {relation : Relation} (own : b.problem.Has relation.proposition)
    (general : Id .verb) : b.Advances (addGeneral relation b general) := by
  unfold Blueprint.addGeneral
  split
  case h_1 implied known => exact valid.advances_implies own (valid.has_of_relation? known)
  case h_2 =>
    exact (valid.advances_clause
      (List.forall_mem_singleton (a := relation.proposition.negative).mpr own)).1

theorem addExcluded {relation : Relation} (own : b.problem.Has relation.proposition)
    (other : Id .verb) : b.Advances (addExcluded relation b other) := by
  unfold Blueprint.addExcluded
  split_ifs with handled
  · exact .refl valid
  split
  case h_1 excluded known =>
    refine valid.advances_atMost ?_
    simpa using ⟨own, valid.has_of_relation? known⟩
  · exact .refl valid

theorem addWays (relation : Relation) (ways : List (Id .verb)) :
    b.Advances (addWays relation ways b) := by
  unfold Blueprint.addWays
  dsimp only
  split_ifs
  · exact valid.advances_atMost (has_of_mem_filterMap fun _ _ => valid.has_of_relation?)
  · exact .refl valid

theorem tieRelation {relation : Relation} (own : b.problem.Has relation.proposition)
    (verb : Verb) : b.Advances (tieRelation verb b relation) := by
  have general := Advances.foldl (verb.generalizations ++ verb.superspecies) (.refl valid)
    fun b₁ h general _ => h.valid.addGeneral (h.grows.problem.has own) general
  have excluded := general.foldl verb.exclusions fun b₁ h other _ =>
    h.valid.addExcluded (h.grows.problem.has own) other
  exact excluded.trans (excluded.valid.addWays relation verb.subspecies)

theorem tieVerb (id : Id .verb) : b.Advances (tieVerb b id) :=
  Advances.foldl _ (.refl valid) fun _ h relation mem => by
    have own := valid.relations relation (List.mem_of_mem_filter mem)
    exact h.valid.tieRelation (h.grows.problem.has own) _

/-- Relating all beings takes nothing back and leaves nothing unfinished. -/
theorem addRelations : b.Advances b.addRelations := by
  have added := Advances.foldl b.world.verbIds (.refl valid) fun _ h id _ => h.valid.addVerb id
  exact added.foldl b.world.verbIds fun _ h id _ => h.valid.tieVerb id

end Valid

/-! ## The blueprint of a request -/

/-- Everything in the blueprint of a request is written down in full, and as many beings as were
requested are among its beings, each declared as was requested. -/
theorem complete_ofRequest (world : World) (request : Request) :
    (ofRequest world request).Complete ∧ (ofRequest world request).world = world ∧
      (ofRequest world request).requested.length = request.count ∧
      (ofRequest world request).requested.Nodup ∧
      ∀ i ∈ (ofRequest world request).requested, i < (ofRequest world request).beings.size ∧
        ((ofRequest world request).being i).kinds =
          declaredKinds world [request.kind] request.modifiers ∧
        ((ofRequest world request).being i).modifiers = request.modifiers := by
  obtain ⟨permanent, same, none⟩ := (complete_ofWorld world).addPermanents world.individualIds
  obtain ⟨added, grows, new, requested, length, nodup, each⟩ :=
    permanent.addRequested request request.count
  have related := added.valid.addRelations
  have whose : (ofRequest world request).requested = new := by
    refine related.requested.trans (requested.trans ?_)
    rw [none]
    rfl
  refine ⟨added.advance related, related.grows.world.trans (grows.world.trans same), ?_, ?_, ?_⟩
  · rw [whose, length]
  · rw [whose]
    exact nodup
  · intro i mem
    obtain ⟨-, lt, kinds, modifiers⟩ := each i (whose ▸ mem)
    rw [same] at kinds
    exact ⟨related.grows.lt_size lt, (related.grows.kinds_eq lt).trans kinds,
      (related.grows.modifiers_eq lt).trans modifiers⟩

end Blueprint

end Worldsmith
