import Worldsmith.Proofs.Sentence.Filling
import Worldsmith.Proofs.World.Names

/-!
# What sentences mention

A sentence mentions concepts by names that the lexicon knows, or else it coins new ones. So if the
lexicon leads to concepts of the world only, whatever a sentence mentions as known is one of them.

## Main definitions

* `Mention.IsIn` — what is mentioned is a concept of the world, or is still to be made.
* `Reading.IsIn` — all mentions of a sentence are so.

## Main statements

* `World.isIn_of_understand` — all sentences that are understood mention what there is.
-/

namespace Worldsmith

/-- Whether what is mentioned is a concept of the world, or is still to be made. -/
def Mention.IsIn (world : World) : Mention → Prop
  | .known concept => world.Holds concept
  | .coined _ => True

/-- Whether all that a noun phrase mentions is so. -/
structure NounPhrase.IsIn (world : World) (phrase : NounPhrase) : Prop where
  head : phrase.head.IsIn world
  modifiers : ∀ modifier ∈ phrase.modifiers, modifier.mention.IsIn world

/-- Whether all that a slot was filled with mentions is so. -/
def Constituent.IsIn (world : World) : Constituent → Prop
  | .noun phrase => phrase.IsIn world
  | .nouns series => ∀ phrase ∈ series.items, phrase.IsIn world
  | .adjective modifier => modifier.mention.IsIn world
  | .adjectives series => ∀ modifier ∈ series.items, modifier.mention.IsIn world
  | .verb mention => mention.IsIn world
  | .count _ | .text _ | .choice _ => True

/-- Whether all that a sentence mentions is so. -/
def Reading.IsIn (world : World) (reading : Reading) : Prop :=
  ∀ constituent ∈ reading.constituents, constituent.IsIn world

theorem NounPhrase.isIn_iff {world : World} {phrase : NounPhrase} :
    phrase.IsIn world ↔ ∀ mention ∈ phrase.mentions, mention.IsIn world := by
  rw [NounPhrase.mentions, List.forall_mem_cons, List.forall_mem_map]
  exact ⟨fun isIn => ⟨isIn.head, isIn.modifiers⟩, fun each => ⟨each.1, each.2⟩⟩

theorem Constituent.isIn_iff {world : World} {constituent : Constituent} :
    constituent.IsIn world ↔ ∀ mention ∈ constituent.mentions, mention.IsIn world := by
  cases constituent with
  | noun => exact NounPhrase.isIn_iff
  | nouns => simp only [IsIn, mentions, NounPhrase.isIn_iff, List.forall_mem_flatMap]
  | adjective | adjectives | verb | count | text | choice => simp [IsIn, mentions]

section Growing

variable {world world' : World} (grows : ∀ concept, world.Holds concept → world'.Holds concept)
include grows

theorem Mention.IsIn.mono {mention : Mention} (isIn : mention.IsIn world) :
    mention.IsIn world' := by
  cases mention with
  | known concept => exact grows concept isIn
  | coined => trivial

theorem NounPhrase.IsIn.mono {phrase : NounPhrase} (isIn : phrase.IsIn world) :
    phrase.IsIn world' :=
  ⟨isIn.head.mono grows, fun modifier mem => (isIn.modifiers modifier mem).mono grows⟩

theorem Reading.IsIn.mono {reading : Reading} (isIn : reading.IsIn world) :
    reading.IsIn world' := by
  intro constituent mem
  have known := isIn constituent mem
  cases constituent with
  | noun => exact NounPhrase.IsIn.mono grows known
  | nouns => exact fun phrase among => (known phrase among).mono grows
  | adjective => exact Mention.IsIn.mono grows known
  | adjectives => exact fun modifier among => (known modifier among).mono grows
  | verb => exact Mention.IsIn.mono grows known
  | count | text | choice => trivial

end Growing

section Finding

variable {world : World} {reader reader' : Reader} {sort : Coinage → Bool} {mention : Mention}
  {mentions : List Mention} (binds : world.lexicon.Binds world.Holds)

include binds

theorem World.Knows.holds {concept : Concept} (knows : world.Knows concept) :
    world.Holds concept := by
  obtain ⟨name, entry, known, rfl⟩ := knows
  exact binds name entry known

theorem Reader.Finds.isIn (found : reader.Finds world sort mention reader') :
    mention.IsIn world := by
  cases found with
  | known concept knows => exact knows.holds binds
  | coined | new => trivial

theorem Reader.ReadsOn.isIn (readsOn : reader.ReadsOn world mentions reader') :
    ∀ mention ∈ mentions, mention.IsIn world := by
  induction readsOn with
  | stay => exact List.forall_mem_nil _
  | find found _ ih => exact List.forall_mem_cons.mpr ⟨found.isIn binds, ih⟩
  | go _ _ ih => exact ih

/-- All sentences that are understood mention what there is. -/
theorem World.isIn_of_understand {line : String} {reading : Reading}
    (understood : world.understand line = .ok reading) : reading.IsIn world := by
  obtain ⟨_, _, -, -, fills⟩ := fills_of_understand understood
  intro constituent mem
  exact Constituent.isIn_iff.mpr fun mention among =>
    fills.readsOn.isIn binds mention (List.mem_flatMap.mpr ⟨constituent, mem, among⟩)

end Finding

end Worldsmith
