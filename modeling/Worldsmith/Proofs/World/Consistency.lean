import Worldsmith.Proofs.World.Closure
import Worldsmith.Proofs.World.Whole

/-!
# What is never recorded together

Some declarations are refused because of what has been recorded, or because they are at odds with
themselves. So no verb is both reflexive and irreflexive, bounds of alternatives and of numbers do
not cross, and no kind is listed twice for an individual, whatever has been declared in whichever
order. That goes no further than what is looked at: symmetry is not compared with antisymmetry, nor
a bound with one of an earlier sentence.

## Main definitions

* `World.IsConsistent` — what is recorded of one thing fits together, as far as that is seen to.

## Main statements

* `World.Reachable.isConsistent` — it does in all worlds that declarations lead to.
-/

namespace Worldsmith

/-- Whether a property is no number, or one between two counts that are in order. -/
def PropertyDomain.IsOrdered : PropertyDomain → Prop
  | .range low high => ∃ l h : Nat, l ≤ h ∧ low = l.toUInt64.toFloat ∧ high = h.toUInt64.toFloat
  | .menu _ _ _ | .text => True

theorem PropertyDomain.IsFresh.isOrdered {domain : PropertyDomain} (fresh : domain.IsFresh) :
    domain.IsOrdered := by
  cases domain with
  | range => exact fresh
  | menu | text => trivial

namespace World

variable {world later : World}

/-- Whether what is recorded of one thing fits together, as far as that is seen to. -/
structure IsConsistent (world : World) : Prop where
  reflexivity : ∀ id, ¬((world.verb id).reflexive = true ∧ (world.verb id).antiReflexive = true)
  alternatives : ∀ kind ∈ world.kinds, ∀ set ∈ kind.alternativeSets, set.low ≤ set.high
  ranges : ∀ property ∈ world.properties, property.domain.IsOrdered
  kinds : ∀ individual ∈ world.individuals, individual.kinds.Nodup

theorem IsConsistent.nodup_kinds (h : world.IsConsistent) (id : Id .individual) :
    (world.individual id).kinds.Nodup := by
  rw [World.individual, Array.getD_eq_getD_getElem?]
  cases found : world.individuals[id.index]? with
  | none => exact .nil
  | some individual => exact h.kinds individual (Array.mem_of_getElem? found)

theorem isConsistent_empty : empty.IsConsistent := by
  have verb (id : Id .verb) : empty.verb id = default := by simp [World.verb, empty]
  refine ⟨fun id => ?_, by simp [empty], by simp [empty], by simp [empty]⟩
  rw [verb]
  rintro ⟨⟨⟩, -⟩

theorem VerbChange.apart {id : Id .verb} {f : Verb → Verb} (change : world.VerbChange id f)
    (apart : ¬((world.verb id).reflexive = true ∧ (world.verb id).antiReflexive = true)) :
    ¬((f (world.verb id)).reflexive = true ∧ (f (world.verb id)).antiReflexive = true) := by
  cases change with
  | density | generalization | signature | modifiers | symmetric | antiSymmetric | bound =>
    exact apart
  | antiReflexive free => exact fun both => absurd (free ▸ both.1) Bool.false_ne_true
  | reflexive free => exact fun both => absurd (free ▸ both.2) Bool.false_ne_true

theorem Change.reflexivity (change : world.Change later)
    (apart : ∀ id, ¬((world.verb id).reflexive = true ∧ (world.verb id).antiReflexive = true))
    (id : Id .verb) :
    ¬((later.verb id).reflexive = true ∧ (later.verb id).antiReflexive = true) := by
  cases change with
  | names | newKind | newAdjective | newIndividual | kind | silent | edge | relevant
  | restriction | part | classify | characterize | value | expectation => exact apart id
  | newVerb _ base thirdPerson gerund =>
    let laws (verb : Verb) := (verb.reflexive, verb.antiReflexive)
    have same := getD_push world.verbs id.index (a := .named base thirdPerson gerund) laws rfl
    obtain ⟨reflexive, antiReflexive⟩ := Prod.mk.inj same
    rw [World.verb, reflexive, antiReflexive]
    exact apart id
  | verb v change =>
    rw [verb_modifyVerb]
    split_ifs with here
    · obtain ⟨rfl, -⟩ := here
      exact change.apart (apart v)
    · exact apart id
  | wayOf =>
    rw [addWayOf]
    split_ifs
    · exact apart id
    · simp only [verb_modifyVerb]
      split_ifs <;> exact apart id
  | exclusion =>
    simp only [addExclusion, verb_modifyVerb]
    split_ifs <;> exact apart id
  | property =>
    rw [addProperty]
    split <;> exact apart id

theorem KindChange.inOrder {f : Kind → Kind} (change : world.KindChange f) {kind : Kind}
    (inOrder : ∀ set ∈ kind.alternativeSets, set.low ≤ set.high) :
    ∀ set ∈ (f kind).alternativeSets, set.low ≤ set.high := by
  cases change with
  | wording plain =>
    obtain ⟨_, _, _, _, same⟩ := plain kind
    rw [same]
    exact inOrder
  | alternatives set new => exact List.forall_mem_append.mpr ⟨inOrder, by simpa using new⟩
  | implications => exact inOrder

/-- What each kind keeps when it is changed in other respects. -/
theorem forall_mem_modifyKind {holds : Kind → Prop} (all : ∀ kind ∈ world.kinds, holds kind)
    {id : Id .kind} {f : Kind → Kind} (step : ∀ kind, holds kind → holds (f kind)) :
    ∀ kind ∈ (world.modifyKind id f).kinds, holds kind := by
  intro kind mem
  rcases mem_modifyKind mem with mem | ⟨old, among, rfl⟩
  · exact all kind mem
  · exact step old (all old among)

theorem Change.alternatives (change : world.Change later)
    (inOrder : ∀ kind ∈ world.kinds, ∀ set ∈ kind.alternativeSets, set.low ≤ set.high) :
    ∀ kind ∈ later.kinds, ∀ set ∈ kind.alternativeSets, set.low ≤ set.high := by
  cases change with
  | names | newAdjective | newVerb | newIndividual | silent | verb | exclusion | restriction
  | classify | characterize | value | expectation => exact inOrder
  | newKind =>
    intro kind mem
    rcases Array.mem_push.mp mem with mem | rfl
    · exact inOrder kind mem
    · exact nofun
  | kind id change => exact forall_mem_modifyKind inOrder fun kind => change.inOrder
  | edge =>
    refine forall_mem_modifyKind (forall_mem_modifyKind inOrder ?_) ?_
    all_goals exact fun _ => id
  | relevant kind adjective =>
    have kinds : (world.makeRelevant kind adjective).kinds = (world.modifyKind kind
      fun k => { k with adjectives := adjoin adjective k.adjectives }).kinds := rfl
    rw [kinds]
    refine forall_mem_modifyKind inOrder ?_
    exact fun _ => id
  | wayOf =>
    rw [kinds_addWayOf]
    exact inOrder
  | property =>
    rw [addProperty]
    split
    · exact inOrder
    · refine forall_mem_modifyKind inOrder ?_
      exact fun _ => id
  | part =>
    refine forall_mem_modifyKind inOrder ?_
    exact fun _ => id

theorem Change.ranges (change : world.Change later)
    (inOrder : ∀ property ∈ world.properties, property.domain.IsOrdered) :
    ∀ property ∈ later.properties, property.domain.IsOrdered := by
  cases change with
  | names | newKind | newAdjective | newVerb | newIndividual | kind | silent | verb | edge
  | relevant | exclusion | part | classify | characterize | value | expectation => exact inOrder
  | wayOf =>
    rw [addWayOf]
    split_ifs <;> exact inOrder
  | property owner name domain owned fresh =>
    rw [addProperty]
    intro property mem
    split at mem
    · rcases mem_modifyProperty mem with mem | ⟨old, -, rfl⟩
      · exact inOrder property mem
      · exact fresh.isOrdered
    · rcases Array.mem_push.mp mem with mem | rfl
      · exact inOrder property mem
      · exact fresh.isOrdered
  | restriction =>
    intro property mem
    rcases mem_modifyProperty mem with mem | ⟨old, -, rfl⟩
    · exact inOrder property mem
    · trivial

theorem Change.kinds (change : world.Change later)
    (nodup : ∀ individual ∈ world.individuals, individual.kinds.Nodup) :
    ∀ individual ∈ later.individuals, individual.kinds.Nodup := by
  cases change with
  | names | newKind | newAdjective | newVerb | kind | silent | verb | edge | relevant | exclusion
  | restriction | part | expectation => exact nodup
  | newIndividual =>
    intro individual mem
    rcases Array.mem_push.mp mem with mem | rfl
    · exact nodup individual mem
    · exact .nil
  | wayOf =>
    rw [addWayOf]
    split_ifs <;> exact nodup
  | property =>
    rw [addProperty]
    split <;> exact nodup
  | classify =>
    intro individual mem
    rcases mem_modifyIndividual mem with mem | ⟨old, -, rfl⟩
    · exact nodup individual mem
    · exact nodup_mostSpecific world _
  | characterize | value =>
    intro individual mem
    rcases mem_modifyIndividual mem with mem | ⟨old, among, rfl⟩
    · exact nodup individual mem
    · exact nodup old among

theorem Change.isConsistent (change : world.Change later) (h : world.IsConsistent) :
    later.IsConsistent :=
  ⟨change.reflexivity h.reflexivity, change.alternatives h.alternatives,
    change.ranges h.ranges, change.kinds h.kinds⟩

/-- What is recorded of one thing fits together, as far as that is seen to. -/
theorem Reachable.isConsistent (reachable : world.Reachable) : world.IsConsistent := by
  have becomes := reachable.evolves.becomes
  clear reachable
  induction becomes with
  | refl => exact isConsistent_empty
  | tail _ change ih => exact change.isConsistent ih

end World

end Worldsmith
