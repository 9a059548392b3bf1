import Worldsmith.Proofs.Sentence.Recognition
import Worldsmith.Proofs.Text.Classes

/-!
# That kinds are kinds of another

A noun that follows the rules, and has nothing in common with any pattern, is read as the kind that
it names, or as a kind that it makes if nothing begins as it does. So a sentence that says of one
such noun that it is a kind of another is read in just one way, whatever else is known, and the text
of the sentence can be read back.

## Main definitions

* `Noun` — a common noun that can be put in either number.
* `Noun.Apart` — whether two nouns cannot be mistaken for each other.
* `World.Mentions` — what the plural of a noun stands for in a sentence.
* `Noun.subkindLine` — the sentence that one kind is a kind of another.

## Main statements

* `readNounPhrase_of_mentions` — a noun is read as it is mentioned.
* `understand_subkindLine` — how it is read that one kind is a kind of another.
* `trim_subkindLine`, `isRemark_subkindLine` — the sentence is a line that says something.
-/

namespace Worldsmith

/-- A common noun whose two numbers follow from each other, and which consists of words that have no
part in any pattern. -/
structure Noun where
  singular : Name
  plural : Name
  plain : plural.isPlain = true
  lowerFirst_eq : plural.lowerFirst = plural
  plural_eq : singular.plural = .ok plural
  singular_eq : plural.singular = .ok singular
  deriving DecidableEq

/-- Whether neither of two nouns, in either number, begins the other. -/
def Noun.Apart (a b : Noun) : Prop :=
  ∀ n ∈ [a.singular, a.plural], ∀ m ∈ [b.singular, b.plural],
    ¬ n.keys <+: m.keys ∧ ¬ m.keys <+: n.keys

instance (a b : Noun) : Decidable (a.Apart b) :=
  inferInstanceAs (Decidable (∀ n ∈ [a.singular, a.plural], ∀ m ∈ [b.singular, b.plural],
    ¬ n.keys <+: m.keys ∧ ¬ m.keys <+: n.keys))

/-- What the plural of a noun stands for after some coinages, and which coinages there are then: a
kind that is known, or a kind that is coined because nothing begins as the noun does. -/
inductive World.Mentions (world : World) (noun : Noun) (coinages : List Coinage) :
    Mention → List Coinage → Prop
  | known (id : Id .kind) (form : WordForm)
    (found : world.find? noun.plural = some ⟨.kind id, form⟩) :
    Mentions world noun coinages (.known (.kind id)) coinages
  | new (unknown : world.lexicon.BeginsNone noun.plural) (free : world.find? noun.singular = none)
    (unclaimed : ∀ coinage ∈ coinages, coinage.isNamed noun.plural = false) :
    Mentions world noun coinages (.coined coinages.length)
      (coinages ++ [.kind noun.singular noun.plural])

variable {world : World} {noun : Noun} {coinages : List Coinage} {mention : Mention} {stop : Nat}
  {reader : Reader}

/-! ## How a plain name is written -/

/-- A plain word is written with the letters of its text. -/
theorem Token.text_of_isPlain {token : Token} (plain : token.isPlain = true) :
    token.render = token.text ∧ ∃ c cs, token.text.toList = c :: cs ∧
      ∀ letter ∈ c :: cs, Text.isAlphabetic letter = true := by
  have kind := Token.kind_of_isPlain plain
  have typed := Token.isTyped_of_isPlain plain
  refine ⟨by simp [Token.render, kind], ?_⟩
  simp only [Token.isTyped, kind, Bool.and_eq_true, List.all_eq_true] at typed
  cases letters : token.text.toList with
  | nil => simp [letters] at typed
  | cons c cs => exact ⟨c, cs, rfl, letters ▸ typed.2⟩

theorem untokenize_singleton {token : Token} (plain : token.isPlain = true) :
    untokenize [token] = token.text := by
  obtain ⟨nonempty, -⟩ := Token.text_of_isTyped_word (Token.kind_of_isPlain plain)
    (Token.isTyped_of_isPlain plain)
  rw [untokenize, untokenizeFrom_cons _ nonempty, (Token.text_of_isPlain plain).1]
  simp [ProseState.spaceBefore, ProseState.start, untokenizeFrom]

theorem head?_untokenize {name : Name} (plain : name.isPlain = true) :
    ∃ c, (untokenize name).toList.head? = some c ∧ Text.isAlphabetic c = true := by
  obtain ⟨first, rest, rfl⟩ := List.exists_cons_of_ne_nil (Name.ne_nil_of_isPlain plain)
  have plain := Name.isPlain_of_mem plain List.mem_cons_self
  obtain ⟨nonempty, -⟩ := Token.text_of_isTyped_word (Token.kind_of_isPlain plain)
    (Token.isTyped_of_isPlain plain)
  obtain ⟨render, c, cs, text, letters⟩ := Token.text_of_isPlain plain
  refine ⟨c, ?_, letters c List.mem_cons_self⟩
  rw [untokenize, untokenizeFrom_cons _ nonempty, render]
  simp [ProseState.spaceBefore, ProseState.start, text]

theorem getLast?_untokenize {name : Name} (plain : name.isPlain = true) :
    ∃ c, (untokenize name).toList.getLast? = some c ∧ Text.isAlphabetic c = true := by
  have words : ∀ token ∈ name, token.kind = .word ∧ token.isTyped = true := fun token mem =>
    ⟨Token.kind_of_isPlain (Name.isPlain_of_mem plain mem),
      Token.isTyped_of_isPlain (Name.isPlain_of_mem plain mem)⟩
  rcases List.eq_nil_or_concat name with rfl | ⟨before, last, rfl⟩
  · cases plain
  rw [List.concat_eq_append] at plain words ⊢
  have plain : last.isPlain = true :=
    Name.isPlain_of_mem plain (List.mem_append_right _ (List.mem_singleton_self last))
  obtain ⟨-, c, cs, text, letters⟩ := Token.text_of_isPlain plain
  refine ⟨(c :: cs).getLast (List.cons_ne_nil c cs), ?_, letters _ (List.getLast_mem _)⟩
  have ends : (untokenize [last]).toList.getLast? =
      some ((c :: cs).getLast (List.cons_ne_nil c cs)) := by
    rw [untokenize_singleton plain, text, List.getLast?_eq_some_getLast]
  by_cases alone : before = []
  · rw [alone, List.nil_append, ends]
  · rw [untokenize_append_words alone (by simp) words, String.toList_append, List.getLast?_append,
      ends, Option.some_or]

theorem Text.trim_eq_self {s : String} (first : ∀ c ∈ s.toList.head?, isBlank c = false)
    (last : ∀ c ∈ s.toList.getLast?, isBlank c = false) : trim s = s := by
  have still {cs : List Char} (first : ∀ c ∈ cs.head?, isBlank c = false) :
      cs.dropWhile isBlank = cs := by
    refine List.dropWhile_eq_self_iff.mpr fun long => ?_
    rw [first _ (by simp [List.head?_eq_getElem?])]
    exact Bool.false_ne_true
  rw [trim, still first, still (List.head?_reverse ▸ last), List.reverse_reverse,
    String.ofList_toList]

/-! ## How a noun is read -/

theorem Coinage.isNamed_of_same {coinage : Coinage} {singular plural : Name}
    (same : coinage.same (.kind singular plural) = true) : coinage.isNamed plural = true := by
  cases coinage with
  | kind s p =>
    obtain ⟨-, same⟩ := Bool.and_eq_true_iff.mp same
    simp [isNamed, names, same]
  | adjective | verb | individual => cases same

theorem Reader.peek?_of_span {first : Token} {rest : List Token}
    (here : span reader.tokens reader.position stop = first :: rest) :
    reader.peek? = some first := by
  have there : (reader.tokens.take stop)[reader.position]? = some first := by
    rw [← List.head?_drop]
    exact congrArg List.head? here
  obtain ⟨inside, rfl⟩ := List.getElem?_eq_some_iff.mp there
  rw [List.getElem_take]
  exact List.getElem?_eq_getElem (List.length_take_le' _ _ |>.trans_lt' inside)

theorem isCoinable_of_isPlain {name : Name} (plain : name.isPlain = true)
    (fresh : world.find? name = none) : world.isCoinable name = true := by
  have words : name.all (fun t => t.kind == .word && !t.isOneOf reservedWords) = true := by
    refine List.all_eq_true.mpr fun token mem => ?_
    have plain := Name.isPlain_of_mem plain mem
    have unreserved : token.isOneOf reservedWords = false := by
      refine List.any_eq_false.mpr fun word reserved => ?_
      rw [Token.reads_of_isPlain plain]
      · exact Bool.false_ne_true
      · exact List.mem_append_left _ (List.mem_append_left _ (List.mem_cons_of_mem _ reserved))
    simp [Token.kind_of_isPlain plain, unreserved]
  simp [World.isCoinable, Name.ne_nil_of_isPlain plain, words, fresh]

theorem knownConcepts_known {lexicon : Lexicon Concept} {name : Name} {id : Id .kind}
    {form : WordForm} (plain : name.isPlain = true)
    (found : lexicon.get? name = some ⟨.kind id, form⟩) :
    knownConcepts lexicon [] name = ([⟨.kind id, form⟩], []) := by
  obtain ⟨first, rest, rfl⟩ := List.exists_cons_of_ne_nil (Name.ne_nil_of_isPlain plain)
  have whole : lexicon.longest? (first :: rest) =
      some (⟨.kind id, form⟩, (first :: rest).length) := by
    refine Lexicon.longest?_eq_some_iff.mpr ⟨by simp, le_rfl, by simpa using found, ?_⟩
    exact fun m longer le => absurd le (Nat.not_le.mpr longer)
  rw [knownConcepts]
  simp only [List.isEmpty_nil, Bool.not_true, Bool.and_false, Bool.false_eq_true, if_false]
  split
  · rename_i none
    cases whole.symm.trans none
  · rename_i some
    cases whole.symm.trans some
    simp [knownConcepts]

theorem knownConcepts_new {lexicon : Lexicon Concept} {name : Name}
    (unknown : lexicon.BeginsNone name) : knownConcepts lexicon [] name = ([], name) := by
  cases name with
  | nil => rw [knownConcepts]
  | cons first rest =>
    rw [knownConcepts]
    simp only [List.isEmpty_nil, Bool.not_true, Bool.and_false, Bool.false_eq_true, if_false]
    split
    · rfl
    · rename_i some
      cases (Lexicon.longest?_eq_none_iff.mpr unknown).symm.trans some

theorem coinKind_new (atStart : Bool) (unknown : world.lexicon.BeginsNone noun.plural)
    (free : world.find? noun.singular = none)
    (unclaimed : ∀ coinage ∈ reader.coinages, coinage.isNamed noun.plural = false) :
    reader.coinKind world noun.plural .plural atStart = some (reader.coinages.length,
      { reader with coinages := reader.coinages ++ [.kind noun.singular noun.plural] }) := by
  have fresh : world.find? noun.plural = none := by
    have := unknown noun.plural.length
      (List.length_pos_of_ne_nil (Name.ne_nil_of_isPlain noun.plain)) le_rfl
    rwa [List.take_length] at this
  have coinable : world.isCoinable noun.plural = true := isCoinable_of_isPlain noun.plain fresh
  have pending : reader.pending? noun.plural = none := by
    rw [Reader.pending?, List.findIdx?_eq_none_iff]
    exact unclaimed
  have alike : reader.coinages.findIdx? (·.same (.kind noun.singular noun.plural)) = none := by
    rw [List.findIdx?_eq_none_iff]
    intro coinage mem
    rw [← Bool.not_eq_true]
    intro same
    exact Bool.false_ne_true ((unclaimed coinage mem).symm.trans (coinage.isNamed_of_same same))
  simp [Reader.coinKind, coinable, pending, noun.lowerFirst_eq, bothNumbers?, noun.singular_eq,
    free, fresh, Reader.coin, alike]

/-- Where nothing determines the number any form will do. -/
theorem exists_numberOf? (form : WordForm) : ∃ number, numberOf? form none = some number := by
  cases form <;> exact ⟨_, rfl⟩

/-- A plain noun in the plural is read as it is mentioned. -/
theorem readNounPhrase_of_mentions
    (here : Reader.span reader.tokens reader.position stop = noun.plural)
    (mentions : world.Mentions noun reader.coinages mention coinages) :
    ∃ number, readNounPhrase world .plural stop reader =
      some (⟨mention, [], number, none, noun.plural⟩, { reader with coinages := coinages }) := by
  obtain ⟨first, rest, same⟩ := List.exists_cons_of_ne_nil (Name.ne_nil_of_isPlain noun.plain)
  have peek : reader.peek? = some first := Reader.peek?_of_span (here.trans same)
  have bare : determiner? first = none :=
    Token.determiner?_of_isPlain (Name.isPlain_of_mem noun.plain (same ▸ List.mem_cons_self))
  rw [readNounPhrase, here, peek]
  simp only [Option.bind_eq_bind, Option.bind_some, bare, Option.map_none, Option.isSome_none,
    Bool.false_eq_true, if_false, Option.getD_none]
  cases mentions with
  | known id form found =>
    rw [knownConcepts_known noun.plain found]
    obtain ⟨number, agrees⟩ := exists_numberOf? form
    exact ⟨number, by simp [headOf?, Concept.isNoun, modifiersOf?, agrees]⟩
  | new unknown free unclaimed =>
    rw [knownConcepts_new unknown]
    simp only [headOf?, same, List.length_cons]
    rw [← same, coinKind_new _ unknown free unclaimed]
    obtain ⟨number, agrees⟩ :=
      exists_numberOf? (coinedForm (some (.kind noun.singular noun.plural)) .plural)
    exact ⟨number, by simp [modifiersOf?, agrees]⟩

/-! ## How a slot is filled with a noun -/

theorem Reader.advanceTo_of_le (reader : Reader) {position : Nat}
    (inside : position ≤ reader.tokens.length) :
    reader.advanceTo position = { reader with position := position } := by
  rw [advanceTo, Nat.min_eq_left inside]

/-- What has no separators is one item. -/
theorem splitFrom_of_plain {tokens : List Token} {start position : Nat} {flag : Bool}
    (plain : ∀ other ∈ tokens, separator? other = none) (long : start < position + tokens.length) :
    splitFrom start position none flag tokens =
      some ([(start, position + tokens.length)], none) := by
  induction tokens generalizing position flag with
  | nil => rw [splitFrom, if_pos (by simpa using long)]; rfl
  | cons first rest ih =>
    obtain ⟨here, others⟩ := List.forall_mem_cons.mp plain
    have further : position + (first :: rest).length = position + 1 + rest.length := by
      rw [List.length_cons]
      omega
    rw [splitFrom, here]
    exact further ▸ ih others (further ▸ long)

theorem fill_noun_of_mentions (ahead : reader.position < stop)
    (here : Reader.span reader.tokens reader.position stop = noun.plural)
    (mentions : world.Mentions noun reader.coinages mention coinages) :
    ∃ number, Slot.fill world (.noun .plural) stop reader =
      some (.noun ⟨mention, [], number, none, noun.plural⟩,
        Reader.advanceTo { reader with coinages := coinages } stop) := by
  obtain ⟨number, read⟩ := readNounPhrase_of_mentions here mentions
  refine ⟨number, ?_⟩
  rw [Slot.fill, if_neg (Nat.not_le.mpr ahead), Slot.filler?, read]
  rfl

theorem fill_nouns_of_mentions (reader : Reader) (ahead : reader.position < stop)
    (inside : stop ≤ reader.tokens.length)
    (here : Reader.span reader.tokens reader.position stop = noun.plural)
    (mentions : world.Mentions noun reader.coinages mention coinages) :
    ∃ number, Slot.fill world .nouns stop reader =
      some (.nouns ⟨[⟨mention, [], number, none, noun.plural⟩], none⟩,
        Reader.advanceTo { reader with coinages := coinages } stop) := by
  obtain ⟨number, read⟩ := readNounPhrase_of_mentions here mentions
  refine ⟨number, ?_⟩
  have length : noun.plural.length = stop - reader.position := by
    rw [← here, Reader.span, List.length_drop, List.length_take, Nat.min_eq_left inside]
  have split : splitSeries reader.position noun.plural =
      some ⟨[(reader.position, stop)], none⟩ := by
    rw [splitSeries, splitFrom_of_plain _ (by omega)]
    · simp [length, Nat.add_sub_cancel' (Nat.le_of_lt ahead)]
    · exact fun other mem => Token.separator?_of_isPlain (Name.isPlain_of_mem noun.plain mem)
  have still : reader.advanceTo reader.position = reader :=
    reader.advanceTo_of_le (by omega)
  rw [Slot.fill, if_neg (Nat.not_le.mpr ahead), Slot.filler?, readSeries, here, split]
  simp only [Option.bind_eq_bind, Option.bind_some, readSpans, still, read]
  rfl

/-- A slot in front of a word that stands in one place ends there. -/
theorem stops_before_word {s : Slot} {token : Token} {key : String} {rest : List Element}
    {before after : List Token} (waits : s.isSelfDelimiting = false)
    (here : Element.wordMatches token key = true)
    (others : ∀ other ∈ before ++ after, Element.wordMatches other key = false)
    (some : before ≠ []) :
    Element.stops world s (.word key :: rest) (before ++ token :: after) 0 = [before.length] := by
  rw [Element.stops, if_neg (by simp [waits])]
  simp only [Element.nextTaking?]
  refine List.perm_singleton.mp ((List.perm_ext_iff_of_nodup ?_ (List.nodup_singleton _)).mpr ?_)
  · exact ((List.nodup_range).filter _).filter _
  · intro place
    have found (other : Token) (there : (before ++ token :: after)[place]? = Option.some other)
        (apart : place ≠ before.length) : other ∈ before ++ after := by
      rcases Nat.lt_or_gt_of_ne apart with early | late
      · rw [List.getElem?_append_left early] at there
        exact List.mem_append_left _ (List.mem_of_getElem? there)
      · rw [List.getElem?_append_right (Nat.le_of_lt late), List.getElem?_cons,
          if_neg (Nat.sub_ne_zero_of_lt late)] at there
        exact List.mem_append_right _ (List.mem_of_getElem? there)
    have long := List.length_pos_of_ne_nil some
    simp only [List.mem_filter, List.mem_range, decide_eq_true_eq, List.mem_singleton,
      Option.any_eq_true]
    constructor
    · rintro ⟨-, other, there, fits⟩
      by_contra apart
      exact Bool.false_ne_true ((others other (found other there apart)).symm.trans fits)
    · rintro rfl
      refine ⟨⟨by simp, long⟩, token, by simp, here⟩

theorem Element.matchAll_word {key : String} {rest : List Element} {found : List Constituent}
    {token : Token} {tokens : List Token} {place : Nat} (here : tokens[place]? = some token)
    (fits : wordMatches token key = true) :
    matchAll world (.word key :: rest) ⟨tokens, place, coinages⟩ found =
      matchAll world rest ⟨tokens, place + 1, coinages⟩ found := by
  obtain ⟨inside, -⟩ := List.getElem?_eq_some_iff.mp here
  rw [matchAll, Reader.peek?, here, Option.any_some, if_pos fits, Reader.advanceTo_of_le _ inside]

/-! ## The sentence -/

/-- The pattern by which kinds are said to be kinds of another. -/
def Pattern.subkinds : Pattern := .of "NPLIST are kinds of NPS" (.declare .subkinds) [.common 0]

theorem Pattern.library_subkinds : library[8]? = some subkinds := rfl

theorem Pattern.elements_subkinds : subkinds.elements = [.slot .nouns, .word "are", .word "kinds",
    .word "of", .slot (.noun .plural), .requirement (.common 0)] := by
  decide +kernel

/-- The words between two kinds of which one is a kind of the other. -/
def areKindsOf : List Token := [.word "are", .word "kinds", .word "of"]

/-- The tokens that say that one kind is a kind of another. -/
def Noun.subkindTokens (sub parent : Noun) : List Token :=
  sub.plural ++ (areKindsOf ++ parent.plural)

section Subkinds

variable {sub parent : Noun} {object : Mention} {coined : List Coinage} {token : Token}

theorem mem_areKindsOf (mem : token ∈ areKindsOf) :
    ∃ word ∈ ["are", "kinds", "of"], token = .word word := by
  simpa [areKindsOf, or_assoc] using mem

theorem plain_or_spoken (mem : token ∈ sub.subkindTokens parent) :
    token.isPlain = true ∨ ∃ word ∈ ["are", "kinds", "of"], token = .word word := by
  rcases List.mem_append.mp mem with mem | mem
  · exact .inl (Name.isPlain_of_mem sub.plain mem)
  · exact (List.mem_append.mp mem).symm.imp (Name.isPlain_of_mem parent.plain) mem_areKindsOf

theorem misses_subkinds :
    ∀ other ∈ Pattern.library.take 8, other.Misses (sub.subkindTokens parent) := by
  have lacks : ∀ other ∈ Pattern.library.take 8, ∃ key ∈ other.words,
      ∀ word ∈ ["are", "kinds", "of"], Element.wordMatches (.word word) key = false := by
    decide +kernel
  exact fun other mem => Pattern.misses_of_spoken (List.mem_of_mem_take mem) (lacks other mem)
    fun _ => plain_or_spoken

theorem typed_subkinds (mem : token ∈ sub.subkindTokens parent) :
    token.kind = .word ∧ token.isTyped = true := by
  rcases plain_or_spoken mem with plain | ⟨word, among, rfl⟩
  · exact ⟨Token.kind_of_isPlain plain, Token.isTyped_of_isPlain plain⟩
  · have typed : ∀ word ∈ ["are", "kinds", "of"], (Token.word word).kind = .word ∧
        (Token.word word).isTyped = true := by decide
    exact typed word among

theorem matchAll_areKindsOf (before after : List Token) (rest : List Element)
    (found : List Constituent) :
    Element.matchAll world (.word "are" :: .word "kinds" :: .word "of" :: rest)
        ⟨before ++ (areKindsOf ++ after), before.length, coinages⟩ found =
      Element.matchAll world rest
        ⟨before ++ (areKindsOf ++ after), before.length + 3, coinages⟩ found := by
  have place (i : Nat) : (before ++ (areKindsOf ++ after))[before.length + i]? =
      (areKindsOf ++ after)[i]? := by
    rw [List.getElem?_append_right (Nat.le_add_right _ _), Nat.add_sub_cancel_left]
  exact (Element.matchAll_word (place 0) (by decide)).trans <|
    (Element.matchAll_word (place 1) (by decide)).trans <|
      Element.matchAll_word (place 2) (by decide)

/-- The rest of a sentence is a noun phrase, which is about a kind. -/
theorem matchAll_noun (reader : Reader) (series : Series NounPhrase)
    (ahead : reader.position < reader.tokens.length)
    (here : Reader.span reader.tokens reader.position reader.tokens.length = noun.plural)
    (mentions : world.Mentions noun reader.coinages mention coinages) :
    ∃ number, Element.matchAll world [.slot (.noun .plural), .requirement (.common 0)] reader
        [.nouns series] =
      some ([.nouns series, .noun ⟨mention, [], number, none, noun.plural⟩],
        ⟨reader.tokens, reader.tokens.length, coinages⟩) := by
  obtain ⟨number, filled⟩ := fill_noun_of_mentions ahead here mentions
  rw [Reader.advanceTo_of_le _ le_rfl] at filled
  have common : Requirement.isMet (.common 0)
      [.nouns series, .noun ⟨mention, [], number, none, noun.plural⟩] coinages = true := by
    cases mentions with
    | known => rfl
    | new =>
      change (reader.coinages ++ [Coinage.kind noun.singular noun.plural])[_]?.any _ = true
      simp [Coinage.isKind]
  have ends : Element.stops world (.noun .plural) [.requirement (.common 0)] reader.tokens
      reader.position = [reader.tokens.length] := rfl
  refine ⟨number, ?_⟩
  rw [Element.matchAll, ends, List.findSome?_singleton, filled]
  simp only [List.cons_append, List.nil_append, Element.matchAll, common, if_true]
  rw [if_pos (by simp [Reader.atEnd])]

/-! ### Where the nouns stand -/

theorem span_sub (sub parent : Noun) :
    Reader.span (sub.subkindTokens parent) 0 sub.plural.length = sub.plural := by
  simp [Reader.span, Noun.subkindTokens]

theorem span_parent (sub parent : Noun) :
    Reader.span (sub.subkindTokens parent) (sub.plural.length + 3)
      (sub.subkindTokens parent).length = parent.plural := by
  rw [Reader.span, List.take_length, Noun.subkindTokens, ← List.drop_drop, List.drop_left]
  rfl

theorem lt_length_subkindTokens (sub parent : Noun) :
    sub.plural.length + 3 < (sub.subkindTokens parent).length := by
  have some := List.length_pos_of_ne_nil (Name.ne_nil_of_isPlain parent.plain)
  simp only [Noun.subkindTokens, areKindsOf, List.length_append, List.length_cons, List.length_nil]
  omega

/-- The only place at which the first noun can end is before the word after it. -/
theorem stops_subkinds (sub parent : Noun) :
    Element.stops world .nouns (.word "are" :: [.word "kinds", .word "of", .slot (.noun .plural),
      .requirement (.common 0)]) (sub.subkindTokens parent) 0 = [sub.plural.length] := by
  have others : ∀ other ∈ sub.plural ++ (.word "kinds" :: .word "of" :: parent.plural),
      Element.wordMatches other "are" = false := by
    have among : "are" ∈ grammarWords := by decide +kernel
    intro other mem
    simp only [List.mem_append, List.mem_cons] at mem
    rcases mem with mem | rfl | rfl | mem
    · exact Token.wordMatches_of_isPlain (Name.isPlain_of_mem sub.plain mem) among
    · decide
    · decide
    · exact Token.wordMatches_of_isPlain (Name.isPlain_of_mem parent.plain mem) among
  exact stops_before_word rfl (by decide) others (Name.ne_nil_of_isPlain sub.plain)

theorem read?_subkinds (first : world.Mentions sub [] mention coinages)
    (second : world.Mentions parent coinages object coined) :
    ∃ number number₂, Pattern.subkinds.read? world (sub.subkindTokens parent) 8 =
      some ⟨.subkinds, 8, [.nouns ⟨[⟨mention, [], number, none, sub.plural⟩], none⟩,
        .noun ⟨object, [], number₂, none, parent.plural⟩], coined⟩ := by
  have ahead := lt_length_subkindTokens sub parent
  have inside : sub.plural.length ≤ (sub.subkindTokens parent).length := by omega
  obtain ⟨number, filled⟩ := fill_nouns_of_mentions (.ofTokens (sub.subkindTokens parent))
    (List.length_pos_of_ne_nil (Name.ne_nil_of_isPlain sub.plain)) inside (span_sub sub parent)
    first
  obtain ⟨number₂, matched⟩ := matchAll_noun
    ⟨sub.subkindTokens parent, sub.plural.length + 3, coinages⟩
    ⟨[⟨mention, [], number, none, sub.plural⟩], none⟩ ahead (span_parent sub parent) second
  refine ⟨number, number₂, ?_⟩
  rw [Reader.advanceTo_of_le _ inside] at filled
  rw [Pattern.read?, Pattern.elements_subkinds, Element.matchAll]
  simp only [Reader.ofTokens] at filled ⊢
  rw [stops_subkinds, List.findSome?_singleton, filled]
  simp only [List.nil_append]
  rw [Noun.subkindTokens, matchAll_areKindsOf, ← Noun.subkindTokens, matched]
  rfl

/-- The sentence that one kind is a kind of another. -/
def Noun.subkindLine (sub parent : Noun) : String :=
  untokenize sub.plural ++ " are kinds of " ++ untokenize parent.plural

theorem untokenize_subkindTokens :
    untokenize (sub.subkindTokens parent) = sub.subkindLine parent := by
  have some := Name.ne_nil_of_isPlain sub.plain
  have some' := Name.ne_nil_of_isPlain parent.plain
  have words : ∀ token ∈ sub.subkindTokens parent, token.kind = .word ∧ token.isTyped = true :=
    fun _ => typed_subkinds
  rw [Noun.subkindTokens, untokenize_append_words some (by simp [areKindsOf]) words,
    untokenize_append_words (by simp [areKindsOf]) some'
      fun token mem => words token (List.mem_append_right _ mem)]
  have between : untokenize areKindsOf = "are kinds of" := by decide +kernel
  have spaced : " " ++ ("are kinds of" ++ " ") = " are kinds of " := by decide
  rw [between, Noun.subkindLine, ← spaced]
  simp only [String.append_assoc]

/-- How it is read that one kind is a kind of another. -/
theorem understand_subkindLine (first : world.Mentions sub [] mention coinages)
    (second : world.Mentions parent coinages object coined) :
    ∃ number number₂, world.understand (sub.subkindLine parent) =
      .ok ⟨.subkinds, 8, [.nouns ⟨[⟨mention, [], number, none, sub.plural⟩], none⟩,
        .noun ⟨object, [], number₂, none, parent.plural⟩], coined⟩ := by
  obtain ⟨number, number₂, read⟩ := read?_subkinds first second
  have cut : tokenize (sub.subkindLine parent) = .ok (sub.subkindTokens parent) := by
    rw [← untokenize_subkindTokens]
    exact (spelled_of_isTyped fun _ mem => (typed_subkinds mem).2).tokenize_eq_ok
  have whole : dropStops (sub.subkindTokens parent) = sub.subkindTokens parent := by
    have noStop : ∀ token ∈ (sub.subkindTokens parent).reverse, Token.isStop token = false := by
      intro token mem
      simp [Token.isStop, Token.isMark, (typed_subkinds (List.mem_reverse.mp mem)).1]
    rw [dropStops, List.dropWhile_eq_self_iff.mpr, List.reverse_reverse]
    exact fun long stops => Bool.false_ne_true ((noStop _ (List.getElem_mem long)).symm.trans stops)
  refine ⟨number, number₂, ?_⟩
  rw [World.understand, cut]
  change (Pattern.understand world (dropStops (sub.subkindTokens parent))).mapError _ = _
  rw [whole, Pattern.understand_eq_ok Pattern.library_subkinds read misses_subkinds]
  rfl

theorem head?_subkindLine (sub parent : Noun) :
    ∃ c, (sub.subkindLine parent).toList.head? = some c ∧ Text.isAlphabetic c = true := by
  obtain ⟨c, first, letter⟩ := head?_untokenize sub.plain
  refine ⟨c, ?_, letter⟩
  simp [Noun.subkindLine, first]

theorem trim_subkindLine : Text.trim (sub.subkindLine parent) = sub.subkindLine parent := by
  obtain ⟨c, first, letter⟩ := head?_subkindLine sub parent
  obtain ⟨d, last, letter'⟩ := getLast?_untokenize parent.plain
  refine Text.trim_eq_self ?_ ?_
  · simp [first, isBlank_of_isAlphabetic letter]
  · rw [Noun.subkindLine, String.toList_append, List.getLast?_append, last, Option.some_or]
    simp [isBlank_of_isAlphabetic letter']

theorem isRemark_subkindLine : isRemark (sub.subkindLine parent) = false := by
  obtain ⟨c, first, letter⟩ := head?_subkindLine sub parent
  obtain ⟨rest, same⟩ := List.head?_eq_some_iff.mp first
  have unmarked : (sub.subkindLine parent).startsWith "#" = false := by
    rw [← Bool.not_eq_true, String.startsWith_string_iff, same]
    intro marked
    obtain rfl : '#' = c := by simpa using marked
    exact absurd letter (by decide)
  have spoken : (sub.subkindLine parent).isEmpty = false := by
    rw [← Bool.not_eq_true, String.isEmpty_iff]
    intro nothing
    simp [nothing] at same
  simp [isRemark, spoken, unmarked]

end Subkinds

end Worldsmith
