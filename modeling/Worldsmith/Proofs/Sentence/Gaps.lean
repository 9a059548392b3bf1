import Worldsmith.Proofs.Sentence.Filling

/-!
# What sentences provide

A slot is filled with a constituent of the slot's own sort. So a sentence that is understood has as
many constituents of each sort as its pattern leaves gaps for them, and no pattern leaves fewer than
what it declares or commands takes up.

## Main definitions

* `Gap` — the sorts of constituents.
* `Action.demands` — the constituents that are looked for to carry out what a sentence asks for.
* `Reading.Provides` — a sentence has all the constituents that are looked for.

## Main statements

* `Slot.gaps_eq_of_suits` — what suits slots one by one fills their gaps, one after another.
* `Pattern.provides_library` — each pattern leaves gaps for all that its action looks for.
* `World.provides_of_understand` — a sentence that is understood provides what it asks for, and
  mentions what is known or coined by it.
-/

namespace Worldsmith

/-- The sort of a constituent, and of the slots that it can fill. -/
inductive Gap where
  | noun
  | nouns
  | adjective
  | adjectives
  | verb
  | count
  | text
  | choice
  deriving DecidableEq, Repr

def Slot.gap : Slot → Gap
  | .noun _ | .proper => .noun
  | .nouns => .nouns
  | .adjective => .adjective
  | .adjectives => .adjectives
  | .verb _ => .verb
  | .count => .count
  | .text => .text
  | .choice _ => .choice

def Constituent.gap : Constituent → Gap
  | .noun _ => .noun
  | .nouns _ => .nouns
  | .adjective _ => .adjective
  | .adjectives _ => .adjectives
  | .verb _ => .verb
  | .count _ => .count
  | .text _ => .text
  | .choice _ => .choice

def Element.gap? : Element → Option Gap
  | .slot s => some s.gap
  | .word _ | .requirement _ => none

/-- The gaps that a pattern leaves. -/
def Pattern.gaps (pattern : Pattern) : List Gap := pattern.elements.filterMap Element.gap?

/-- The gaps that a sentence has filled. -/
def Reading.gaps (reading : Reading) : List Gap := reading.constituents.map Constituent.gap

/-! ## What is looked for -/

/-- The constituents that a declaration looks for. -/
def Declaration.demands : Declaration → List Gap
  | .subkinds => [.noun, .nouns]
  | .subkind => [.noun, .noun]
  | .pluralForm | .singularForm => [.noun, .text]
  | .membership => [.noun, .noun]
  | .description | .naming => [.noun, .text]
  | .silence => [.adjective]
  | .attributes => [.noun, .adjectives]
  | .choiceBetween => [.noun, .count, .count, .adjectives]
  | .choiceUpTo => [.noun, .count, .adjectives]
  | .possibility | .generality => [.noun, .adjectives]
  | .wayOf | .implication | .exclusion => [.verb, .verb]
  | .frequency => [.verb, .choice]
  | .symmetry | .antisymmetry | .irreflexivity | .reflexivity => [.noun, .verb]
  | .relateExactlyOne | .relate => [.noun, .choice, .verb]
  | .relateUpTo => [.noun, .choice, .verb, .count]
  | .relateAtLeast => [.noun, .verb, .count]
  | .relateBetween => [.noun, .verb, .count, .count]
  | .range => [.noun, .text, .count, .count]
  | .menu => [.noun, .text, .text]
  | .part => [.noun, .noun, .text]
  | .freeText => [.noun, .text]
  | .propertyValue => [.noun, .text, .text]
  | .shouldExist | .shouldNotExist => [.noun]

/-- The constituents that a command looks for. -/
def Command.demands : Command → List Gap
  | .imagine => [.noun]
  | .save => [.text]
  | .undo | .startOver | .test | .restate | .stats | .help => []

def Action.demands : Action → List Gap
  | .declare d => d.demands
  | .command c => c.demands

/-- Whether there are gaps for all that is looked for. -/
def Gap.Provide (gaps demands : List Gap) : Prop :=
  ∀ gap ∈ demands, demands.count gap ≤ gaps.count gap

instance (gaps demands : List Gap) : Decidable (Gap.Provide gaps demands) :=
  inferInstanceAs (Decidable (∀ gap ∈ demands, demands.count gap ≤ gaps.count gap))

theorem Gap.Provide.lt_count {gaps demands : List Gap} (provide : Gap.Provide gaps demands)
    {gap : Gap} {n : Nat} (asked : n < demands.count gap) : n < gaps.count gap :=
  Nat.lt_of_lt_of_le asked (provide gap (List.count_pos_iff.mp (Nat.zero_lt_of_lt asked)))

/-- Each pattern leaves gaps for all that its action looks for. -/
theorem Pattern.provides_library :
    ∀ pattern ∈ library, Gap.Provide pattern.gaps pattern.action.demands := by
  decide +kernel

/-- Whether a sentence has all the constituents that are looked for. -/
def Reading.Provides (reading : Reading) (demands : List Gap) : Prop :=
  Gap.Provide reading.gaps demands

/-- Whether a sentence mentions only what is known or coined by it. -/
def Reading.IsMade (reading : Reading) : Prop :=
  ∀ constituent ∈ reading.constituents, ∀ mention ∈ constituent.mentions,
    mention.IsMade reading.coinages

/-! ## Filling gaps -/

section Filling

variable {world : World}

theorem Slot.Suits.gap_eq {slot : Slot} {constituent : Constituent} {coinages : List Coinage}
    (suits : slot.Suits coinages constituent) : constituent.gap = slot.gap := by
  cases suits <;> rfl

theorem Pattern.gaps_eq (pattern : Pattern) : pattern.gaps = pattern.slots.map Slot.gap := by
  rw [gaps, slots, List.map_filterMap]
  refine List.filterMap_congr fun element _ => ?_
  cases element <;> rfl

/-- What suits slots one by one fills their gaps, one after another. -/
theorem Slot.gaps_eq_of_suits {coinages : List Coinage} {slots : List Slot}
    {found : List Constituent} (suits : List.Forall₂ (Slot.Suits coinages) slots found) :
    found.map Constituent.gap = slots.map Slot.gap := by
  induction suits with
  | nil => rfl
  | cons first _ ih => rw [List.map_cons, List.map_cons, first.gap_eq, ih]

/-- A sentence that a pattern of the library reads provides what the pattern's action looks for, and
mentions what is known or coined by it. -/
theorem Pattern.provides_of_read? {tokens : List Token} {pattern : Pattern} {index : Nat}
    {reading : Reading} (known : pattern ∈ library)
    (read : pattern.read? world tokens index = some reading) :
    reading.Provides pattern.action.demands ∧ reading.IsMade := by
  obtain ⟨reader, coined, fills⟩ := fills_of_read? read
  refine ⟨?_, fun constituent among mention mem => ?_⟩
  · rw [Reading.Provides, Reading.gaps, Slot.gaps_eq_of_suits fills.suits, ← Pattern.gaps_eq]
    exact provides_library pattern known
  · rw [← coined]
    exact fills.readsOn.yields.made mention (List.mem_flatMap.mpr ⟨constituent, among, mem⟩)

/-- A sentence that is understood has been read by the pattern that is in its place of the
library. -/
theorem World.read?_of_understand {line : String} {reading : Reading}
    (understood : world.understand line = .ok reading) :
    ∃ tokens, tokenize line = .ok tokens ∧
      Pattern.library[reading.index]? = some reading.pattern ∧
      reading.pattern.read? world (dropStops tokens) reading.index = some reading := by
  obtain ⟨tokens, cut, understood⟩ := exists_understand_of_understand understood
  exact ⟨tokens, cut, Pattern.read?_of_understand understood⟩

/-- A sentence that is understood provides what it asks for, and mentions what is known or coined
by it. -/
theorem World.provides_of_understand {line : String} {reading : Reading}
    (understood : world.understand line = .ok reading) :
    reading.Provides reading.pattern.action.demands ∧ reading.IsMade := by
  obtain ⟨tokens, -, place, read⟩ := read?_of_understand understood
  exact Pattern.provides_of_read? (List.mem_of_getElem? place) read

end Filling

end Worldsmith
