import Worldsmith.Proofs.Sentence.Progress
import Worldsmith.Session.Knowledge

/-!
# What fills slots

All that comes of reading is said here once, phrase by phrase: what fills a slot is a constituent of
the slot's sort, whose mentions a reader has found one after another, each of the sort that the slot
asks for; and what is quoted is part of the sentence. Whatever holds of mentions and coinages is
derived from this, without another look at how phrases are read.

## Main definitions

* `Constituent.mentions` — all that a slot was filled with mentions.
* `Slot.Suits` — what a slot was filled with refers to coinages of the fitting sort only.
* `Reader.Fills` — slots are filled one after another.

## Main statements

* `Slot.suits_of_filler?` — what fills a slot suits it, and a reader finds all that it mentions.
* `Element.fills_of_matchAll` — a match fills the slots of its elements.
* `World.fills_of_understand` — a sentence that is understood fills the slots of its pattern.
-/

namespace Worldsmith

/-! ## Sorts of mentions -/

/-- All that a noun phrase mentions. -/
def NounPhrase.mentions (phrase : NounPhrase) : List Mention :=
  phrase.head :: phrase.modifiers.map Modifier.mention

/-- All that a slot was filled with mentions. -/
def Constituent.mentions : Constituent → List Mention
  | .noun phrase => phrase.mentions
  | .nouns series => series.items.flatMap NounPhrase.mentions
  | .adjective modifier => [modifier.mention]
  | .adjectives series => series.items.map Modifier.mention
  | .verb mention => [mention]
  | .count _ | .text _ | .choice _ => []

/-- Whether a mention is of something known or of a coinage of some sort. -/
def Mention.IsOf (coinages : List Coinage) (sort : Coinage → Bool) : Mention → Prop
  | .known _ => True
  | .coined index => coinages[index]?.any sort = true

/-- Whether the head of a noun phrase is known or of some sort and all that modifies it is known. -/
structure NounPhrase.IsOf (coinages : List Coinage) (sort : Coinage → Bool)
    (phrase : NounPhrase) : Prop where
  head : phrase.head.IsOf coinages sort
  modifiers : ∀ modifier ∈ phrase.modifiers, ∃ concept, modifier.mention = .known concept

/-- Whether what a slot was filled with refers to coinages of the fitting sort only. -/
inductive Slot.Suits (coinages : List Coinage) : Slot → Constituent → Prop
  | noun (number : GrammaticalNumber) (phrase : NounPhrase)
    (isOf : phrase.IsOf coinages Coinage.isKind) : Suits coinages (.noun number) (.noun phrase)
  | proper (phrase : NounPhrase) (isOf : phrase.IsOf coinages Coinage.isIndividual) :
    Suits coinages .proper (.noun phrase)
  | nouns (series : Series NounPhrase)
    (isOf : ∀ phrase ∈ series.items, phrase.IsOf coinages Coinage.isKind) :
    Suits coinages .nouns (.nouns series)
  | adjective (modifier : Modifier) (isOf : modifier.mention.IsOf coinages Coinage.isAdjective) :
    Suits coinages .adjective (.adjective modifier)
  | adjectives (series : Series Modifier)
    (isOf : ∀ modifier ∈ series.items, modifier.mention.IsOf coinages Coinage.isAdjective) :
    Suits coinages .adjectives (.adjectives series)
  | verb (coin : Bool) (mention : Mention) (isOf : mention.IsOf coinages Coinage.isVerb) :
    Suits coinages (.verb coin) (.verb mention)
  | count (value : Nat) : Suits coinages .count (.count value)
  | text (tokens : List Token) : Suits coinages .text (.text tokens)
  | choice (phrases : List String) (phrase : String) :
    Suits coinages (.choice phrases) (.choice phrase)

section Sorts

variable {coinages more : List Coinage} {sort : Coinage → Bool}

theorem Mention.IsOf.mono {mention : Mention} (isOf : mention.IsOf coinages sort)
    (grows : coinages <+: more) : mention.IsOf more sort := by
  cases mention with
  | known => trivial
  | coined index =>
    obtain ⟨coinage, found, fits⟩ := (Option.any_eq_true _ _).mp isOf
    obtain ⟨inside, rfl⟩ := List.getElem?_eq_some_iff.mp found
    have later := List.prefix_iff_getElem?.mp grows index inside
    rw [IsOf, later]
    exact fits

theorem NounPhrase.IsOf.mono {phrase : NounPhrase} (isOf : phrase.IsOf coinages sort)
    (grows : coinages <+: more) : phrase.IsOf more sort :=
  ⟨isOf.head.mono grows, isOf.modifiers⟩

theorem Slot.Suits.mono {slot : Slot} {constituent : Constituent}
    (suits : slot.Suits coinages constituent) (grows : coinages <+: more) :
    slot.Suits more constituent := by
  cases suits with
  | noun number phrase isOf => exact .noun number phrase (isOf.mono grows)
  | proper phrase isOf => exact .proper phrase (isOf.mono grows)
  | nouns series isOf => exact .nouns series fun phrase mem => (isOf phrase mem).mono grows
  | adjective modifier isOf => exact .adjective modifier (isOf.mono grows)
  | adjectives series isOf =>
    exact .adjectives series fun modifier mem => (isOf modifier mem).mono grows
  | verb coin mention isOf => exact .verb coin mention (isOf.mono grows)
  | count value => exact .count value
  | text tokens => exact .text tokens
  | choice phrases phrase => exact .choice phrases phrase

/-- Coinages that are the same are of the same sort. -/
theorem Coinage.sort_of_same {coinage other : Coinage} (same : coinage.same other = true) :
    coinage.isKind = other.isKind ∧ coinage.isAdjective = other.isAdjective ∧
      coinage.isVerb = other.isVerb ∧ coinage.isIndividual = other.isIndividual := by
  cases coinage <;> cases other <;> first | cases same | exact ⟨rfl, rfl, rfl, rfl⟩

end Sorts

section Filling

variable {world : World} {reader reader' : Reader} {stop index : Nat} {sort : Coinage → Bool}
  {coinage : Coinage} {name : Name} {mention : Mention} {tokens : List Token}

theorem Reader.Finds.isOf (found : reader.Finds world sort mention reader') :
    mention.IsOf reader'.coinages sort := by
  cases found with
  | known concept => trivial
  | coined index sorted => exact sorted
  | new coinage sorted => simpa [Mention.IsOf] using sorted

/-! ## Coining -/

namespace Reader

theorem finds_of_coin (made : reader.coin coinage = (index, reader'))
    (alike : ∀ other : Coinage, other.same coinage = true → sort other = sort coinage)
    (sorted : sort coinage = true) (fits : coinage.Fits world reader.tokens) :
    reader.Finds world sort (.coined index) reader' := by
  rw [coin] at made
  split at made
  · rename_i found
    cases made
    obtain ⟨inside, same, -⟩ := List.findIdx?_eq_some_iff_getElem.mp found
    refine .coined index ?_
    rw [List.getElem?_eq_getElem inside]
    exact (alike _ same).trans sorted
  · cases made
    exact .new coinage sorted fits

theorem finds_of_coinKind {number : GrammaticalNumber} {atStart : Bool}
    (cut : name <:+: reader.tokens)
    (made : reader.coinKind world name number atStart = some (index, reader')) :
    reader.Finds world Coinage.isKind (.coined index) reader' := by
  unfold coinKind at made
  split at made
  · cases made
  rename_i coinable
  split at made
  · split_ifs at made with isKind
    cases made
    exact .coined index isKind
  split at made
  · cases made
  rename_i singular plural forms
  split at made
  · cases made
  rename_i taken
  have fits : (Coinage.kind singular plural).Fits world reader.tokens :=
    .kind name number atStart _ _ cut (by simpa using coinable) forms (by simpa using taken)
  exact finds_of_coin (Option.some.inj made) (fun _ same => (Coinage.sort_of_same same).1) rfl fits

theorem finds_of_coinNamed
    (made : reader.coinNamed world name coinage sort = some (index, reader'))
    (alike : ∀ other : Coinage, other.same coinage = true → sort other = sort coinage)
    (sorted : sort coinage = true)
    (fits : world.isCoinable name = true → coinage.Fits world reader.tokens) :
    reader.Finds world sort (.coined index) reader' := by
  unfold coinNamed at made
  split at made
  · split_ifs at made with among
    cases made
    exact .coined index among
  · split_ifs at made with coinable
    exact finds_of_coin (Option.some.inj made) alike sorted (fits coinable)

end Reader

/-! ## Phrases -/

theorem span_isInfix (tokens : List Token) (start stop : Nat) :
    Reader.span tokens start stop <:+: tokens :=
  (List.drop_suffix _ _).isInfix.trans (List.take_prefix _ _).isInfix

/-- The tokens of a noun phrase after what determines it are part of the sentence. -/
theorem undetermined_isInfix (tokens : List Token) (start stop : Nat) (determined : Bool) :
    (if determined then (Reader.span tokens start stop).drop 1
      else Reader.span tokens start stop) <:+: tokens := by
  have whole := span_isInfix tokens start stop
  split_ifs
  · exact (List.drop_suffix _ _).isInfix.trans whole
  · exact whole

/-- What is left of a noun phrase after the concepts at its start is its end. -/
theorem knownConcepts_isSuffix (lexicon : Lexicon Concept) (found : List (Entry Concept))
    (tokens : List Token) : (knownConcepts lexicon found tokens).2 <:+ tokens := by
  fun_induction knownConcepts lexicon found tokens with
  | case1 => exact List.suffix_rfl
  | case2 _ _ _ _ ih => exact ih.trans (List.suffix_cons _ _)
  | case3 => exact List.suffix_rfl
  | case4 => exact List.suffix_rfl
  | case5 _ _ _ _ _ _ _ _ _ ih => exact ih.trans (List.drop_suffix _ _)

theorem knows_of_mem_knownConcepts {found : List (Entry Concept)}
    (start : ∀ entry ∈ found, world.Knows entry.value) :
    ∀ entry ∈ (knownConcepts world.lexicon found tokens).1, world.Knows entry.value := by
  fun_induction knownConcepts world.lexicon found tokens with
  | case1 => exact start
  | case2 _ _ _ _ ih => exact ih start
  | case3 => exact start
  | case4 => exact start
  | case5 found token rest _ entry length longest _ _ ih =>
    refine ih (List.forall_mem_append.mpr ⟨start, fun other mem => ?_⟩)
    obtain rfl := List.mem_singleton.mp mem
    exact World.knows_of_longest? longest

/-- Modifiers before a noun are known. -/
theorem knows_of_modifiersOf? {found : List (Entry Concept)} {modifiers : List Modifier}
    (held : ∀ entry ∈ found, world.Knows entry.value)
    (made : modifiersOf? found = some modifiers) :
    ∀ modifier ∈ modifiers, ∃ concept, modifier.mention = .known concept ∧ world.Knows concept := by
  intro modifier mem
  obtain ⟨entry, among, comes⟩ := exists_of_mapM_eq_some made modifier mem
  obtain ⟨quality, -, rfl⟩ := Option.map_eq_some_iff.mp comes
  exact ⟨entry.value, rfl, held entry among⟩

/-- The head of a noun phrase is found, and the concepts in front of it are known. -/
theorem finds_of_headOf? {number : GrammaticalNumber} {head : Mention} {form : WordForm}
    {before : List (Entry Concept)} (cut : tokens <:+: reader.tokens)
    (made : headOf? world reader stop number (knownConcepts world.lexicon [] tokens).1
      (knownConcepts world.lexicon [] tokens).2 = some (head, form, before, reader')) :
    reader.Finds world Coinage.isKind head reader' ∧
      ∀ entry ∈ before, world.Knows entry.value := by
  have held : ∀ entry ∈ (knownConcepts world.lexicon [] tokens).1, world.Knows entry.value :=
    knows_of_mem_knownConcepts (List.forall_mem_nil _)
  have ends := (knownConcepts_isSuffix world.lexicon [] tokens).isInfix.trans cut
  generalize knownConcepts world.lexicon [] tokens = concepts at held ends made
  unfold headOf? at made
  split at made
  · split at made
    · rename_i last isLast
      split_ifs at made
      cases made
      exact ⟨.known _ (held last (List.mem_of_getLast? isLast)),
        fun entry mem => held entry (List.dropLast_subset _ mem)⟩
    · cases made
  · split at made
    · cases made
    · rename_i rest coined
      cases made
      exact ⟨Reader.finds_of_coinKind ends coined, held⟩

theorem suits_of_readNounPhrase {bare : GrammaticalNumber} {phrase : NounPhrase}
    (made : readNounPhrase world bare stop reader = some (phrase, reader')) :
    phrase.IsOf reader'.coinages Coinage.isKind ∧ reader.ReadsOn world phrase.mentions reader' := by
  unfold readNounPhrase at made
  obtain ⟨first, -, made⟩ := Option.bind_eq_some_iff.mp made
  dsimp only at made
  obtain ⟨⟨head, form, before, after⟩, headed, made⟩ := Option.bind_eq_some_iff.mp made
  obtain ⟨modifiers, modified, made⟩ := Option.bind_eq_some_iff.mp made
  obtain ⟨number, -, made⟩ := Option.bind_eq_some_iff.mp made
  split_ifs at made
  cases made
  obtain ⟨found, held⟩ := finds_of_headOf? (undetermined_isInfix _ _ _ _) headed
  have known := knows_of_modifiersOf? held modified
  exact ⟨⟨found.isOf, fun modifier mem => (known modifier mem).imp fun _ => And.left⟩,
    .find found (.of_known _ (List.forall_mem_map.mpr known))⟩

theorem suits_of_readProperNoun {phrase : NounPhrase}
    (made : readProperNoun world stop reader = some (phrase, reader')) :
    phrase.IsOf reader'.coinages Coinage.isIndividual ∧
      reader.ReadsOn world phrase.mentions reader' := by
  have single {head : Mention} {name : Name}
      (found : reader.Finds world Coinage.isIndividual head reader') :
      (NounPhrase.mk head [] (some .singular) none name).IsOf reader'.coinages
          Coinage.isIndividual ∧ reader.ReadsOn world [head] reader' :=
    ⟨⟨found.isOf, List.forall_mem_nil _⟩, .single found⟩
  unfold readProperNoun at made
  dsimp only at made
  split at made
  · rename_i entry known
    split at made
    · cases made
      exact single (.known _ (World.knows_of_find? known))
    · cases made
  · split_ifs at made with plain
    obtain ⟨⟨index, _⟩, coined, same⟩ := Option.map_eq_some_iff.mp made
    cases same
    obtain ⟨-, capital⟩ := Bool.and_eq_true_iff.mp plain
    exact single (Reader.finds_of_coinNamed coined
      (fun _ same => (Coinage.sort_of_same same).2.2.2) rfl
      fun free => .individual _ (span_isInfix _ _ _) free capital)

theorem finds_of_readAdjective {modifier : Modifier}
    (made : readAdjective world stop reader = some (modifier, reader')) :
    reader.Finds world Coinage.isAdjective modifier.mention reader' := by
  unfold readAdjective at made
  obtain ⟨first, -, made⟩ := Option.bind_eq_some_iff.mp made
  dsimp only at made
  have cut := span_isInfix reader.tokens
    (if first.reads "not" then reader.position + 1 else reader.position) stop
  generalize Reader.span _ _ _ = name at made cut
  split_ifs at made
  split at made
  · rename_i entry known
    split at made
    · cases made
      exact .known _ (World.knows_of_find? known)
    · cases made
  · obtain ⟨⟨index, _⟩, coined, same⟩ := Option.map_eq_some_iff.mp made
    cases same
    exact Reader.finds_of_coinNamed coined (fun _ same => (Coinage.sort_of_same same).2.1) rfl
      (.adjective name cut)

theorem fits_of_newVerb? {base : Name} (cut : name <:+: tokens)
    (new : newVerb? world name = some base) : (Coinage.verb base).Fits world tokens := by
  unfold newVerb? at new
  split at new
  · cases new
  · rename_i first rest
    split_ifs at new with plain
    cases new
    obtain ⟨coinable, particles⟩ := Bool.and_eq_true_iff.mp plain
    exact .verb first rest cut coinable particles

theorem finds_of_readVerb {coin : Bool} {mention : Mention}
    (made : readVerb world coin stop reader = some (mention, reader')) :
    reader.Finds world Coinage.isVerb mention reader' := by
  unfold readVerb at made
  dsimp only at made
  split at made
  · rename_i entry length longest
    split at made
    · split_ifs at made
      cases made
      exact .known _ (World.knows_of_longest? longest)
    · cases made
  · split_ifs at made
    split at made
    · cases made
    · rename_i base new
      split at made
      · split_ifs at made with isVerb
        cases made
        exact .coined _ isVerb
      · cases made
        exact Reader.finds_of_coin rfl (fun _ same => (Coinage.sort_of_same same).2.2.1) rfl
          (fits_of_newVerb? (span_isInfix _ _ _) new)

section Series

variable {α : Type} {read : Nat → Reader → Option (α × Reader)} {mentions : α → List Mention}
  (suits : List Coinage → α → Prop)
  (mono : ∀ {coinages more item}, suits coinages item → coinages <+: more → suits more item)
  (step : ∀ {stop reader item reader'}, read stop reader = some (item, reader') →
    suits reader'.coinages item ∧ reader.ReadsOn world (mentions item) reader')
include mono step

theorem suits_of_readSpans {spans : List (Nat × Nat)} {items : List α}
    (made : readSpans read spans reader = some (items, reader')) :
    (∀ item ∈ items, suits reader'.coinages item) ∧
      reader.ReadsOn world (items.flatMap mentions) reader' := by
  induction spans generalizing reader items with
  | nil =>
    cases made
    exact ⟨List.forall_mem_nil _, .stay _⟩
  | cons span spans ih =>
    obtain ⟨⟨item, between⟩, first, made⟩ := Option.bind_eq_some_iff.mp made
    obtain ⟨⟨others, _⟩, rest, made⟩ := Option.bind_eq_some_iff.mp made
    cases made
    obtain ⟨itemSuits, found⟩ := step first
    obtain ⟨othersSuit, readsOn⟩ := ih rest
    exact ⟨List.forall_mem_cons.mpr ⟨mono itemSuits readsOn.yields.coinages, othersSuit⟩,
      .go span.1 (found.append readsOn)⟩

theorem suits_of_readSeries {series : Series α}
    (made : readSeries read stop reader = some (series, reader')) :
    (∀ item ∈ series.items, suits reader'.coinages item) ∧
      reader.ReadsOn world (series.items.flatMap mentions) reader' := by
  obtain ⟨spans, -, made⟩ := Option.bind_eq_some_iff.mp made
  obtain ⟨⟨items, _⟩, each, made⟩ := Option.bind_eq_some_iff.mp made
  cases made
  exact suits_of_readSpans suits mono step each

end Series

/-! ## Slots -/

/-- What fills a slot suits it, and a reader finds all that it mentions. -/
theorem Slot.suits_of_filler? {slot : Slot} {constituent : Constituent}
    (made : slot.filler? world stop reader = some (constituent, reader')) :
    slot.Suits reader'.coinages constituent ∧
      reader.ReadsOn world constituent.mentions reader' := by
  cases slot with
  | noun number =>
    obtain ⟨⟨phrase, _⟩, read, same⟩ := Option.map_eq_some_iff.mp made
    cases same
    exact (suits_of_readNounPhrase read).imp_left (.noun number phrase)
  | proper =>
    obtain ⟨⟨phrase, _⟩, read, same⟩ := Option.map_eq_some_iff.mp made
    cases same
    exact (suits_of_readProperNoun read).imp_left (.proper phrase)
  | nouns =>
    obtain ⟨⟨series, _⟩, read, same⟩ := Option.map_eq_some_iff.mp made
    cases same
    have suits := suits_of_readSeries (fun coinages phrase => phrase.IsOf coinages Coinage.isKind)
      .mono suits_of_readNounPhrase read
    exact suits.imp_left (.nouns series)
  | adjective =>
    obtain ⟨⟨modifier, _⟩, read, same⟩ := Option.map_eq_some_iff.mp made
    cases same
    have found := finds_of_readAdjective read
    exact ⟨.adjective modifier found.isOf, .single found⟩
  | adjectives =>
    obtain ⟨⟨series, _⟩, read, same⟩ := Option.map_eq_some_iff.mp made
    cases same
    obtain ⟨suits, readsOn⟩ := suits_of_readSeries
      (fun coinages modifier => modifier.mention.IsOf coinages Coinage.isAdjective) .mono
      (fun first => ⟨(finds_of_readAdjective first).isOf, .single (finds_of_readAdjective first)⟩)
      read
    rw [← List.map_eq_flatMap] at readsOn
    exact ⟨.adjectives series suits, readsOn⟩
  | verb coin =>
    obtain ⟨⟨mention, _⟩, read, same⟩ := Option.map_eq_some_iff.mp made
    cases same
    have found := finds_of_readVerb read
    exact ⟨.verb coin mention found.isOf, .single found⟩
  | count =>
    simp only [filler?] at made
    split_ifs at made
    obtain ⟨n, -, same⟩ := Option.map_eq_some_iff.mp made
    cases same
    exact ⟨.count n, .stay reader⟩
  | text =>
    cases made
    exact ⟨.text _, .stay reader⟩
  | choice phrases =>
    obtain ⟨phrase, -, same⟩ := Option.map_eq_some_iff.mp made
    cases same
    exact ⟨.choice phrases phrase, .stay reader⟩

/-- Only a slot for text is filled with text, and that as it stands. -/
theorem Slot.isInfix_of_filler? {slot : Slot}
    (made : slot.filler? world stop reader = some (.text name, reader')) :
    name <:+: reader.tokens := by
  cases (suits_of_filler? made).1
  cases made
  exact span_isInfix _ _ stop

theorem Slot.yields_of_filler? {slot : Slot} {constituent : Constituent}
    (made : slot.filler? world stop reader = some (constituent, reader')) :
    reader.Yields constituent.mentions reader' :=
  (suits_of_filler? made).2.yields

theorem Slot.exists_of_fill {slot : Slot} {constituent : Constituent}
    (made : slot.fill world stop reader = some (constituent, reader')) :
    ∃ between, slot.filler? world stop reader = some (constituent, between) ∧
      reader' = between.advanceTo stop ∧ reader.position < stop := by
  rw [fill] at made
  split_ifs at made with ahead
  obtain ⟨⟨_, between⟩, fills, same⟩ := Option.map_eq_some_iff.mp made
  cases same
  exact ⟨between, fills, rfl, Nat.lt_of_not_le ahead⟩

/-- A slot that is filled up to a stop begins before it, and reading goes on there. -/
theorem Slot.yields_of_fill {slot : Slot} {constituent : Constituent}
    (made : slot.fill world stop reader = some (constituent, reader')) :
    reader.Yields constituent.mentions reader' ∧ reader.position < stop ∧
      reader'.position = min stop reader.tokens.length := by
  obtain ⟨between, fills, rfl, ahead⟩ := exists_of_fill made
  have yields := yields_of_filler? fills
  exact ⟨yields.advanceTo stop, ahead, by rw [Reader.advanceTo, yields.tokens]⟩

/-! ## Sentences -/

/-- Whether slots are filled one after another as a reader goes on. -/
structure Reader.Fills (world : World) (before : Reader) (slots : List Slot)
    (found : List Constituent) (after : Reader) : Prop where
  suits : List.Forall₂ (Slot.Suits after.coinages) slots found
  readsOn : before.ReadsOn world (found.flatMap Constituent.mentions) after
  /-- What is quoted is part of what is read. -/
  quotes : ∀ name, .text name ∈ found → name <:+: before.tokens

/-- The slots of a pattern's elements. -/
def Element.slot? : Element → Option Slot
  | .slot s => some s
  | .word _ | .requirement _ => none

/-- The slots that a pattern leaves open. -/
def Pattern.slots (pattern : Pattern) : List Slot := pattern.elements.filterMap Element.slot?

namespace Reader.Fills

variable {slots : List Slot} {found : List Constituent}

theorem nil (reader : Reader) : reader.Fills world [] [] reader :=
  ⟨.nil, .stay reader, by simp⟩

theorem of_advanceTo {position : Nat}
    (fills : (reader.advanceTo position).Fills world slots found reader') :
    reader.Fills world slots found reader' :=
  ⟨fills.suits, .go position fills.readsOn, fills.quotes⟩

/-- One more slot is filled first. -/
theorem cons {between : Reader} {slot : Slot} {constituent : Constituent}
    (first : slot.filler? world stop reader = some (constituent, between))
    (rest : between.Fills world slots found reader') :
    reader.Fills world (slot :: slots) (constituent :: found) reader' := by
  obtain ⟨suits, readsOn⟩ := Slot.suits_of_filler? first
  refine ⟨.cons (suits.mono rest.readsOn.yields.coinages) rest.suits,
    readsOn.append rest.readsOn, fun name mem => ?_⟩
  rcases List.mem_cons.mp mem with rfl | mem
  · exact Slot.isInfix_of_filler? first
  · exact readsOn.yields.tokens ▸ rest.quotes name mem

end Reader.Fills

/-- A match fills the slots of its elements, one after another. -/
theorem Element.fills_of_matchAll {elements : List Element} {start found : List Constituent}
    (made : matchAll world elements reader start = some (found, reader')) :
    ∃ more, found = start ++ more ∧
      reader.Fills world (elements.filterMap slot?) more reader' := by
  induction elements generalizing reader start with
  | nil =>
    rw [matchAll] at made
    split_ifs at made
    cases made
    exact ⟨[], by simp, .nil _⟩
  | cons element rest ih =>
    cases element with
    | word key =>
      rw [matchAll] at made
      split_ifs at made
      exact (ih made).imp fun _ => And.imp_right .of_advanceTo
    | requirement r =>
      rw [matchAll] at made
      split_ifs at made
      exact ih made
    | slot slot =>
      rw [matchAll] at made
      obtain ⟨stop, -, made⟩ := List.exists_of_findSome?_eq_some made
      split at made
      · cases made
      · rename_i constituent after filled
        obtain ⟨between, first, rfl, -⟩ := Slot.exists_of_fill filled
        obtain ⟨more, same, fills⟩ := ih made
        exact ⟨constituent :: more, by simpa using same, .cons first fills.of_advanceTo⟩

namespace Pattern

variable {pattern : Pattern} {reading : Reading}

/-- A sentence that a pattern reads fills the slots of the pattern. -/
theorem fills_of_read? (read : pattern.read? world tokens index = some reading) :
    ∃ reader, reader.coinages = reading.coinages ∧
      (Reader.ofTokens tokens).Fills world pattern.slots reading.constituents reader := by
  obtain ⟨⟨found, reader⟩, matched, same⟩ := Option.map_eq_some_iff.mp read
  cases same
  obtain ⟨more, same, fills⟩ := Element.fills_of_matchAll matched
  obtain rfl : found = more := by simpa using same
  exact ⟨reader, rfl, fills⟩

/-- Tokens that are understood have been read by the pattern that is in its place of the library. -/
theorem read?_of_understand (understood : understand world tokens = .ok reading) :
    library[reading.index]? = some reading.pattern ∧
      reading.pattern.read? world tokens reading.index = some reading := by
  rw [understand] at understood
  split at understood
  · rename_i first
    cases understood
    obtain ⟨⟨pattern, index⟩, among, read⟩ := List.exists_of_findSome?_eq_some first
    have place := List.mem_zipIdx_iff_getElem?.mp among
    obtain ⟨_, -, rfl⟩ := Option.map_eq_some_iff.mp read
    exact ⟨place, read⟩
  · cases understood

theorem fills_of_understand (understood : understand world tokens = .ok reading) :
    ∃ reader, reader.coinages = reading.coinages ∧
      (Reader.ofTokens tokens).Fills world reading.pattern.slots reading.constituents reader :=
  fills_of_read? (read?_of_understand understood).2

end Pattern

namespace World

variable {line : String} {reading : Reading}

theorem exists_understand_of_understand (understood : world.understand line = .ok reading) :
    ∃ tokens, tokenize line = .ok tokens ∧
      Pattern.understand world (dropStops tokens) = .ok reading := by
  unfold World.understand Except.mapError at understood
  split at understood
  · cases understood
  · rename_i made
    cases understood
    exact exists_of_bind_eq_ok made

/-- A sentence that is understood fills the slots of its pattern. -/
theorem fills_of_understand (understood : world.understand line = .ok reading) :
    ∃ tokens reader, tokenize line = .ok tokens ∧ reader.coinages = reading.coinages ∧
      (Reader.ofTokens (dropStops tokens)).Fills world reading.pattern.slots reading.constituents
        reader := by
  obtain ⟨tokens, cut, understood⟩ := exists_understand_of_understand understood
  obtain ⟨reader, coined, fills⟩ := Pattern.fills_of_understand understood
  exact ⟨tokens, reader, cut, coined, fills⟩

end World

end Filling

end Worldsmith
