import Worldsmith.Proofs.Blueprint.Pairs
import Worldsmith.Proofs.Comparison.Beings

/-!
# Relations side by side

Where the beings of two blueprints are alike, the same of them could be related, and what a verb
demands on the one side says what it demands on the other.

## Main statements

* `Blueprint.Matches.addRelations` — all beings are related side by side.
-/

namespace Worldsmith

namespace Blueprint

variable {b b' c c' : Blueprint} {i subject object : Nat} {verb : Id .verb}
  {subjectKind objectKind : Id .kind} {p p' : Proposition} {l l' premise premise' : Literal}
  {r r' : Relation}

/-- Steps for relations that are the same, on both sides. -/
theorem Together.foldl_relations {f g : Blueprint → Relation → Blueprint} {rs rs' : List Relation}
    (h : b.Matches b') (same : List.Forall₂ (b.RelationEchoes b') rs rs')
    (step : ∀ c c', Together b b' c c' → ∀ r r', c.RelationEchoes c' r r' →
      Together c c' (f c r) (g c' r')) :
    Together b b' (rs.foldl f b) (rs'.foldl g b') := by
  induction rs generalizing b b' rs' with
  | nil =>
    cases same
    exact .refl h
  | cons r rest ih =>
    obtain ⟨r', rest', echoes, others, rfl⟩ := List.forall₂_cons_left_iff.mp same
    have first := step b b' (.refl h) r r' echoes
    exact first.trans (ih first.matched
      (others.imp fun _ _ echoes => echoes.later first.grows first.grows')
      fun c c' together => step c c' (first.trans together))

namespace Matches

variable (h : b.Matches b')
include h

theorem candidates_eq (kind : Id .kind) : b'.candidates kind = b.candidates kind := by
  rw [candidates, candidates, h.size]
  simp only [h.couldBe_eq]

theorem implies (echoes : l.Echoes (b.Echo b') l')
    (premises : premise.Echoes (b.Echo b') premise') :
    Together b b' (b.modifyProblem (·.implies premise l))
      (b'.modifyProblem (·.implies premise' l')) :=
  h.clause (.cons premises.negate (.cons echoes .nil))

theorem atMost {ls ls' : List Literal} (count : Nat)
    (same : List.Forall₂ (Literal.Echoes (b.Echo b')) ls ls') :
    Together b b' (b.modifyProblem (·.atMost count ls)) (b'.modifyProblem (·.atMost count ls')) :=
  h.add (.between 0 count same)

/-- The same relation is recorded on both sides. -/
theorem record (known : verb.index < b.world.verbs.size) (hs : subject < b.beings.size)
    (ho : object < b.beings.size) :
    Together b b' (b.record verb subject object).2 (b'.record verb subject object).2 ∧
      (b.record verb subject object).2.Echo (b'.record verb subject object).2
        (b.record verb subject object).1 (b'.record verb subject object).1 := by
  obtain ⟨step, -⟩ := h.valid.advances_record verb subject object
  obtain ⟨step', -⟩ := h.valid'.advances_record verb subject object
  have treats : b.Treats (.relation verb subject object) := ⟨known, hs, ho⟩
  have treats' : b'.Treats (.relation verb subject object) :=
    ⟨by rwa [h.underlies.verbs], h.lt_size hs, h.lt_size ho⟩
  have echo : (b.record verb subject object).2.Echo (b'.record verb subject object).2
      (b.record verb subject object).1 (b'.record verb subject object).1 :=
    ⟨.relation verb subject object,
      ⟨step.grows.treats treats, by
        rw [step.grows.spell_eq treats]
        exact b.name?_record verb subject object⟩,
      ⟨step'.grows.treats treats', by
        rw [step'.grows.spell_eq treats']
        exact b'.name?_record verb subject object⟩⟩
  refine ⟨⟨step.grows, step'.grows, ?_⟩, echo⟩
  refine
    { valid := step.valid
      valid' := step'.valid
      underlies := h.underlies
      size := h.size
      beings := h.beings
      fixed := h.fixed
      asserted := h.asserted
      expanded := h.expanded
      relations := ?_
      relation? := fun other x y => ?_
      demands := fun constraint' demands => h.demands_later step.grows step'.grows demands }
  · simp only [Blueprint.record, Array.toList_push]
    exact List.rel_append (h.relations.imp fun _ _ echoes => echoes.later step.grows step'.grows)
      (.cons ⟨rfl, rfl, rfl, echo⟩ .nil)
  · rw [relation?_record, relation?_record]
    split_ifs
    · exact .some echo
    · exact h.relation?_later step.grows step'.grows other x y

/-! ## What a relation demands -/

theorem demandTraits (premises : premise.Echoes (b.Echo b') premise') (hi : i < b.beings.size)
    (traits : List Trait) : Together b b' (demandTraits premise i traits b)
      (Blueprint.demandTraits premise' i traits b') := by
  refine Together.foldl traits h fun c c' together trait _ => ?_
  obtain ⟨made, echoes⟩ := together.matched.literal (together.lt_size hi) trait
  exact made.trans (made.matched.implies echoes (made.literal (together.literal premises)))

theorem bothAre (hs : subject < b.beings.size) (ho : object < b.beings.size)
    (subjectKind objectKind : Id .kind) :
    let (s, o, c) := bothAre subject object subjectKind objectKind b
    let (s', o', c') := Blueprint.bothAre subject object subjectKind objectKind b'
    Together b b' c c' ∧ s.Echoes (c.Echo c') s' ∧ o.Echoes (c.Echo c') o' := by
  obtain ⟨first, echo⟩ := h.isOf hs subjectKind
  obtain ⟨second, echo'⟩ := first.matched.isOf (first.lt_size ho) objectKind
  exact ⟨first.trans second, .positive (second.echo echo), .positive echo'⟩

theorem demandKinds (premises : premise.Echoes (b.Echo b') premise') (hs : subject < b.beings.size)
    (ho : object < b.beings.size) (subjectKind objectKind : Id .kind) :
    Together b b' (demandKinds premise subject object subjectKind objectKind b)
      (Blueprint.demandKinds premise' subject object subjectKind objectKind b') := by
  have both := h.bothAre hs ho subjectKind objectKind
  unfold Blueprint.demandKinds
  generalize Blueprint.bothAre subject object subjectKind objectKind b = left at both ⊢
  generalize Blueprint.bothAre subject object subjectKind objectKind b' = right at both ⊢
  obtain ⟨s, o, c⟩ := left
  obtain ⟨s', o', c'⟩ := right
  obtain ⟨made, subjects, objects⟩ := both
  have first := made.matched.implies subjects (made.literal premises)
  have both := made.trans first
  exact both.trans (both.matched.implies (first.literal objects) (both.literal premises))

theorem demandPair (premises : premise.Echoes (b.Echo b') premise') (hs : subject < b.beings.size)
    (ho : object < b.beings.size) (verb : Verb) (subjectKind objectKind : Id .kind) :
    Together b b' (b.demandPair premise verb subjectKind objectKind subject object)
      (b'.demandPair premise' verb subjectKind objectKind subject object) := by
  have forth := h.demandKinds premises hs ho subjectKind objectKind
  have back : Together b b' (if verb.symmetric then
        Blueprint.demandKinds premise object subject subjectKind objectKind
          (Blueprint.demandKinds premise subject object subjectKind objectKind b)
      else Blueprint.demandKinds premise subject object subjectKind objectKind b)
      (if verb.symmetric then
        Blueprint.demandKinds premise' object subject subjectKind objectKind
          (Blueprint.demandKinds premise' subject object subjectKind objectKind b')
      else Blueprint.demandKinds premise' subject object subjectKind objectKind b') := by
    split_ifs
    · exact forth.trans (forth.matched.demandKinds (forth.literal premises) (forth.lt_size ho)
        (forth.lt_size hs) subjectKind objectKind)
    · exact forth
  have subjectHas := back.trans (back.matched.demandTraits (back.literal premises)
    (back.lt_size hs) verb.subjectModifiers)
  exact subjectHas.trans (subjectHas.matched.demandTraits (subjectHas.literal premises)
    (subjectHas.lt_size ho) verb.objectModifiers)

theorem addPair (known : verb.index < b.world.verbs.size) (hs : subject < b.beings.size)
    (ho : object < b.beings.size) (subjectKind objectKind : Id .kind) :
    Together b b' (addPair verb (b.world.verb verb) subjectKind objectKind subject object b)
      (Blueprint.addPair verb (b.world.verb verb) subjectKind objectKind subject object b') := by
  obtain ⟨made, echo⟩ := h.record known hs ho
  have shape := addPair_eq b' verb subjectKind objectKind subject object
  rw [h.underlies.verb_eq] at shape
  rw [addPair_eq, shape]
  exact made.trans (made.matched.demandPair (.positive echo) (made.lt_size hs) (made.lt_size ho)
    (b.world.verb verb) subjectKind objectKind)

/-! ## The laws of a verb -/

theorem addLoop (hi : i < b.beings.size) (id : Id .verb) (verb : Verb)
    (subjectKind objectKind : Id .kind) :
    Together b b' (addLoop id verb subjectKind objectKind b i)
      (Blueprint.addLoop id verb subjectKind objectKind b' i) := by
  have loops := h.relation? id i i
  unfold Blueprint.addLoop
  generalize b.relation? id i i = p? at loops ⊢
  generalize b'.relation? id i i = p?' at loops ⊢
  cases loops with
  | none => exact .refl h
  | some echo =>
    dsimp only
    split_ifs
    · exact h.clause (.cons (.negative echo) .nil)
    · have both := h.bothAre hi hi subjectKind objectKind
      generalize Blueprint.bothAre i i subjectKind objectKind b = left at both ⊢
      generalize Blueprint.bothAre i i subjectKind objectKind b' = right at both ⊢
      obtain ⟨s, o, c⟩ := left
      obtain ⟨s', o', c'⟩ := right
      obtain ⟨made, subjects, objects⟩ := both
      exact made.trans (made.matched.clause
        (.cons subjects.negate (.cons objects.negate (.cons (.positive (made.echo echo)) .nil))))
    · exact .refl h

theorem addOneWay (id : Id .verb) (pair : Nat × Nat) :
    Together b b' (addOneWay id b pair) (Blueprint.addOneWay id b' pair) := by
  have forth := h.relation? id pair.1 pair.2
  have back := h.relation? id pair.2 pair.1
  unfold Blueprint.addOneWay
  generalize b.relation? id pair.1 pair.2 = p? at forth ⊢
  generalize b'.relation? id pair.1 pair.2 = p?' at forth ⊢
  generalize b.relation? id pair.2 pair.1 = q? at back ⊢
  generalize b'.relation? id pair.2 pair.1 = q?' at back ⊢
  cases forth with
  | none => exact .refl h
  | some echo =>
    cases back with
    | none => exact .refl h
    | some echo' => exact h.atMost 1 (.cons (.positive echo) (.cons (.positive echo') .nil))

theorem addBounds (hi : i < b.beings.size) (id : Id .verb) (verb : Verb) (subjectKind : Id .kind)
    (objects : List Nat) : Together b b' (addBounds id verb subjectKind objects b i)
      (Blueprint.addBounds id verb subjectKind objects b' i) := by
  unfold Blueprint.addBounds
  dsimp only
  split_ifs
  · exact .refl h
  · obtain ⟨made, echo⟩ := h.isOf hi subjectKind
    have related := forall₂_filterMap (h.relation? id i) objects
    exact made.trans (made.matched.add (.guarded _ _ (.positive echo)
      (made.literals (forall₂_echoes_positive related))))

theorem addVerb (known : verb.index < b.world.verbs.size) :
    Together b b' (addVerb b verb) (Blueprint.addVerb b' verb) := by
  unfold Blueprint.addVerb
  dsimp only
  rw [h.underlies.verb_eq]
  split
  case h_2 => exact .refl h
  case h_1 subjectKind objectKind _ _ =>
    have subject {i : Nat} : i ∈ b.candidates subjectKind → i < b.beings.size :=
      lt_size_of_mem_candidates
    have object {i : Nat} : i ∈ b.candidates objectKind → i < b.beings.size :=
      lt_size_of_mem_candidates
    rw [h.candidates_eq, h.candidates_eq]
    generalize b.candidates subjectKind = subjects at subject ⊢
    generalize b.candidates objectKind = objects at object ⊢
    have paired := Together.followed
      (f := fun c pair => Blueprint.addPair verb (b.world.verb verb) subjectKind objectKind
        pair.1 pair.2 c)
      (g := fun c pair => Blueprint.addPair verb (b.world.verb verb) subjectKind objectKind
        pair.1 pair.2 c)
      (pairs subjects objects) (.refl h) fun c c' together pair mem => by
        have added := together.matched.addPair (together.grows.world ▸ known)
          (together.lt_size (subject (mem_pairs mem).1))
          (together.lt_size (object (mem_pairs mem).2)) subjectKind objectKind
        rwa [together.grows.world] at added
    have looped := paired.followed (subjects.filter objects.contains) fun c c' together i mem =>
      together.matched.addLoop (together.lt_size (subject (List.mem_of_mem_filter mem))) verb
        (b.world.verb verb) subjectKind objectKind
    refine .followed subjects ?_ fun c c' together i mem =>
      together.matched.addBounds (together.lt_size (subject mem)) verb (b.world.verb verb)
        subjectKind objects
    split_ifs
    · exact looped.followed _ fun c c' together pair _ => together.matched.addOneWay verb pair
    · exact looped

/-! ## The laws between verbs -/

theorem addGeneral (echoes : b.RelationEchoes b' r r') (general : Id .verb) :
    Together b b' (addGeneral r b general) (Blueprint.addGeneral r' b' general) := by
  have implied := h.relation? general r.subject r.object
  unfold Blueprint.addGeneral
  rw [echoes.subject, echoes.object]
  generalize b.relation? general r.subject r.object = p? at implied ⊢
  generalize b'.relation? general r.subject r.object = p?' at implied ⊢
  cases implied with
  | none => exact h.clause (.cons (.negative echoes.echo) .nil)
  | some echo => exact h.implies (.positive echo) (.positive echoes.echo)

theorem addExcluded (echoes : b.RelationEchoes b' r r') (other : Id .verb) :
    Together b b' (addExcluded r b other) (Blueprint.addExcluded r' b' other) := by
  have excluded := h.relation? other r.subject r.object
  unfold Blueprint.addExcluded
  rw [echoes.verb, echoes.subject, echoes.object]
  generalize b.relation? other r.subject r.object = p? at excluded ⊢
  generalize b'.relation? other r.subject r.object = p?' at excluded ⊢
  split_ifs
  · exact .refl h
  · cases excluded with
    | none => exact .refl h
    | some echo =>
      exact h.atMost 1 (.cons (.positive echoes.echo) (.cons (.positive echo) .nil))

theorem addWays (echoes : b.RelationEchoes b' r r') (ways : List (Id .verb)) :
    Together b b' (addWays r ways b) (Blueprint.addWays r' ways b') := by
  have possible := forall₂_filterMap (fun way => h.relation? way r.subject r.object) ways
  unfold Blueprint.addWays
  dsimp only
  rw [echoes.subject, echoes.object, possible.length_eq]
  split_ifs
  · exact h.atMost 1 (forall₂_echoes_positive possible)
  · exact .refl h

theorem tieRelation (echoes : b.RelationEchoes b' r r') (verb : Verb) :
    Together b b' (tieRelation verb b r) (Blueprint.tieRelation verb b' r') := by
  have general := Together.followed (verb.generalizations ++ verb.superspecies) (.refl h)
    fun c c' together general _ => together.matched.addGeneral
      (echoes.later together.grows together.grows') general
  have excluded := general.followed verb.exclusions fun c c' together other _ =>
    together.matched.addExcluded (echoes.later together.grows together.grows') other
  exact excluded.trans (excluded.matched.addWays
    (echoes.later excluded.grows excluded.grows') verb.subspecies)

theorem tieVerb (id : Id .verb) : Together b b' (tieVerb b id) (Blueprint.tieVerb b' id) := by
  unfold Blueprint.tieVerb
  rw [h.underlies.verb_eq]
  have same : List.Forall₂ (b.RelationEchoes b') (b.relations.toList.filter (·.verb == id))
      (b'.relations.toList.filter (·.verb == id)) := by
    refine List.rel_filter (fun r r' echoes => ?_) h.relations
    simp [echoes.verb]
  exact Together.foldl_relations h same fun c c' together r r' echoes =>
    together.matched.tieRelation echoes _

/-- All beings are related side by side. -/
theorem addRelations : Together b b' b.addRelations b'.addRelations := by
  unfold Blueprint.addRelations
  dsimp only
  rw [h.underlies.verbIds_eq]
  have added := Together.foldl (f := Blueprint.addVerb) (g := Blueprint.addVerb) b.world.verbIds h
    fun c c' together id mem => together.matched.addVerb
      (together.grows.world ▸ World.mem_verbIds_iff.mp mem)
  exact added.followed b.world.verbIds fun c c' together id _ => together.matched.tieVerb id

end Matches

end Blueprint

end Worldsmith
