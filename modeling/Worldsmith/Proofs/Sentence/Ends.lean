import Worldsmith.Proofs.Sentence.Filling

/-!
# Slots that settle where they end

Verbs, counts and fixed phrases propose where they may end before they are filled. For that they
look at all tokens ahead, while they are filled from the tokens in front of the stop alone. Both
come to the same: a slot can be filled up to whatever stop it proposes. There is one thing that
proposing does not look at, which is what has been coined in the sentence so far. A new verb cannot
be read where something else is pending under its name.

## Main definitions

* `Slot.HasWords` — every phrase that a slot offers has words.
* `Slot.Clashes` — a slot would coin a verb whose name is pending for something else.
* `Slot.FillsTo` — a slot is filled up to a stop, and at most one thing is coined for it.

## Main statements

* `Slot.hasWords_ofPlaceholder` — every slot of a sentence offers phrases with words.
* `Slot.fill_of_mem_ends` — a slot is filled up to every stop that it proposes, unless it clashes.
-/

namespace Worldsmith

variable {world : World} {reader reader' : Reader} {stop n : ℕ}

/-! ## The tokens in front of a stop -/

theorem span_eq_take_drop (tokens : List Token) (start n : ℕ) :
    Reader.span tokens start (start + n) = (tokens.drop start).take n := by
  rw [Reader.span, List.drop_take, Nat.add_sub_cancel_left]

/-- What is recorded is one coinage more at most. -/
theorem Reader.coinages_coin (reader : Reader) (coinage : Coinage) :
    (reader.coin coinage).2.coinages = reader.coinages ∨
      (reader.coin coinage).2.coinages = reader.coinages ++ [coinage] := by
  rw [Reader.coin]
  split
  · exact Or.inl rfl
  · exact Or.inr rfl

/-- A phrase ends as many tokens ahead as it has words, within the tokens if it has any. -/
theorem phraseEnd?_eq_some {tokens : List Token} {position : ℕ} {words : List String}
    (ended : phraseEnd? tokens position words = some stop) :
    stop = position + words.length ∧ (words ≠ [] → stop ≤ tokens.length) := by
  induction words generalizing position with
  | nil =>
    rw [phraseEnd?, Option.some.injEq] at ended
    simp [ended]
  | cons word rest ih =>
    rw [phraseEnd?] at ended
    split at ended
    · rename_i token here
      split_ifs at ended
      obtain ⟨rfl, within⟩ := ih ended
      obtain ⟨inside, -⟩ := List.getElem?_eq_some_iff.mp here
      refine ⟨by rw [List.length_cons]; omega, fun _ => ?_⟩
      by_cases last : rest = []
      · subst last
        exact inside
      · exact within last
    · cases ended

/-- The name that a new verb has: its tokens in small letters. -/
def baseOf (tokens : List Token) : Name := tokens.map fun t => .word t.key

/-- A word that can be coined makes a new verb together with prepositions after it. -/
theorem newVerb?_eq_some {first : Token} {rest : List Token}
    (coinable : world.isCoinable [first] = true)
    (le : n ≤ (rest.takeWhile (·.isOneOf prepositions)).length) :
    newVerb? world (first :: rest.take n) = some (baseOf (first :: rest.take n)) := by
  have among : rest.take n <+: rest.takeWhile (·.isOneOf prepositions) := by
    refine List.prefix_of_prefix_length_le (List.take_prefix n rest)
      (List.takeWhile_prefix _) ?_
    rw [List.length_take]
    omega
  have all : (rest.take n).all (·.isOneOf prepositions) = true := by
    rw [List.all_eq_true]
    exact fun token mem => List.all_eq_true.mp List.all_takeWhile token (among.subset mem)
  rw [newVerb?, coinable, all]
  rfl

namespace Slot

/-- Whether every phrase that a slot offers has words. -/
def HasWords : Slot → Prop
  | choice phrases => ∀ phrase ∈ phrases, Text.splitBlank phrase ≠ []
  | _ => True

/-- Every slot of a sentence offers phrases with words. -/
theorem hasWords_ofPlaceholder (text : String) : (ofPlaceholder text).HasWords := by
  unfold ofPlaceholder
  split
  case h_10 => exact (by decide +kernel : ∀ phrase ∈ modals, Text.splitBlank phrase ≠ [])
  case h_11 => exact (by decide +kernel : ∀ phrase ∈ frequencies, Text.splitBlank phrase ≠ [])
  all_goals trivial

/-- Whether a slot would coin a verb, up to a stop, whose name is pending for something else. -/
def Clashes (world : World) (slot : Slot) (stop : ℕ) (reader : Reader) : Prop :=
  slot = verb true ∧
    world.lexicon.longest? (reader.tokens.drop reader.position) = none ∧
    ∃ index coinage,
      reader.pending? (baseOf (Reader.span reader.tokens reader.position stop)) = some index ∧
      reader.coinages[index]? = some coinage ∧ coinage.isVerb = false

/-- Whether a slot is filled up to a stop. The reader is left there, and one more thing is coined at
most. -/
structure FillsTo (world : World) (slot : Slot) (stop : ℕ) (reader : Reader)
    (constituent : Constituent) (reader' : Reader) : Prop where
  filled : slot.fill world stop reader = some (constituent, reader')
  tokens : reader'.tokens = reader.tokens
  position : reader'.position = stop
  coinages : reader'.coinages = reader.coinages ∨
    ∃ coinage, reader'.coinages = reader.coinages ++ [coinage]

/-- To find a filler for the tokens in front of a stop ahead is to fill the slot. -/
theorem fillsTo_of_filler? {slot : Slot} {constituent : Constituent}
    (ahead : reader.position < stop) (inside : stop ≤ reader.tokens.length)
    (filler : slot.filler? world stop reader = some (constituent, reader'))
    (coinages : reader'.coinages = reader.coinages ∨
      ∃ coinage, reader'.coinages = reader.coinages ++ [coinage]) :
    slot.FillsTo world stop reader constituent (reader'.advanceTo stop) where
  filled := by rw [fill, if_neg (by omega), filler, Option.map_some]
  tokens := (yields_of_filler? filler).tokens
  position := by rw [Reader.advanceTo, (yields_of_filler? filler).tokens, Nat.min_eq_left inside]
  coinages := coinages

/-! ## Counts and fixed phrases -/

/-- A count is one token, which says a number. -/
theorem fillsTo_of_count {first : Token} (here : reader.peek? = some first)
    (counts : first.count?.isSome) :
    ∃ constituent reader',
      count.FillsTo world (reader.position + 1) reader constituent reader' := by
  obtain ⟨inside, -⟩ := List.getElem?_eq_some_iff.mp here
  obtain ⟨number, counts⟩ := Option.isSome_iff_exists.mp counts
  refine ⟨.count number, _, fillsTo_of_filler? (by omega) (by omega) ?_ (Or.inl rfl)⟩
  simp [filler?, here, counts]

/-- Some phrase, if not this one, is found that ends where a phrase with words ends. -/
theorem fillsTo_of_phrase {phrases : List String} {phrase : String} (among : phrase ∈ phrases)
    (worded : Text.splitBlank phrase ≠ [])
    (ended : choiceEnd? reader.tokens reader.position phrase = some stop) :
    ∃ constituent reader', (choice phrases).FillsTo world stop reader constituent reader' := by
  obtain ⟨length, within⟩ := phraseEnd?_eq_some ended
  have pos := List.length_pos_iff.mpr worded
  have some : (phrases.find? fun p =>
      choiceEnd? reader.tokens reader.position p == some stop).isSome := by
    rw [List.find?_isSome]
    exact ⟨phrase, among, by simpa using ended⟩
  obtain ⟨chosen, found⟩ := Option.isSome_iff_exists.mp some
  refine ⟨.choice chosen, _, fillsTo_of_filler? (by omega) (within worded) ?_ (Or.inl rfl)⟩
  rw [filler?, found, Option.map_some]

/-! ## Verbs -/

theorem filler?_verb {coin : Bool} {mention : Mention}
    (read : readVerb world coin stop reader = some (mention, reader')) :
    (verb coin).filler? world stop reader = some (.verb mention, reader') := by
  rw [filler?, read, Option.map_some]

/-- A known verb ends where the longest name ends, which is the longest up to there as well. -/
theorem fillsTo_of_knownVerb {entry : Entry Concept} {known : Id .verb} (coin : Bool)
    (longest : world.lexicon.longest? (reader.tokens.drop reader.position) = some (entry, n))
    (isVerb : entry.value = .verb known) :
    (verb coin).FillsTo world (reader.position + n) reader (.verb (.known entry.value))
      (reader.advanceTo (reader.position + n)) := by
  have begins := Lexicon.longest?_eq_some_iff.mp longest
  have pos := begins.pos
  have within := begins.le
  rw [List.length_drop] at within
  have upTo := Lexicon.longest?_eq_some_iff.mpr (begins.take (Nat.le_refl n))
  have length : ((reader.tokens.drop reader.position).take n).length = n := by
    rw [List.length_take, List.length_drop]
    omega
  refine fillsTo_of_filler? (by omega) (by omega) (filler?_verb ?_) (Or.inl rfl)
  simp [readVerb, span_eq_take_drop, upTo, isVerb, length]

section New

variable {base : Name}
  (unknown : world.lexicon.longest? (Reader.span reader.tokens reader.position stop) = none)
  (new : newVerb? world (Reader.span reader.tokens reader.position stop) = some base)
include unknown new

/-- A new verb is coined if nothing is pending under its name. -/
theorem readVerb_of_fresh (fresh : reader.pending? base = none) :
    readVerb world true stop reader =
      some (.coined (reader.coin (.verb base)).1, (reader.coin (.verb base)).2) := by
  simp only [readVerb, unknown, new, fresh, if_true]

/-- A new verb is read as what is pending under its name, which has to be a verb. -/
theorem readVerb_of_pending {index : ℕ} {coinage : Coinage}
    (pending : reader.pending? base = some index)
    (there : reader.coinages[index]? = some coinage) :
    readVerb world true stop reader =
      if coinage.isVerb then some (.coined index, reader) else none := by
  simp only [readVerb, unknown, new, pending, there, Option.any_some, if_true]

/-- A new verb is filled in unless something else is pending under its name. -/
theorem fillsTo_of_newVerb (ahead : reader.position < stop)
    (inside : stop ≤ reader.tokens.length)
    (free : ∀ index coinage, reader.pending? base = some index →
      reader.coinages[index]? = some coinage → coinage.isVerb = true) :
    ∃ constituent reader', (verb true).FillsTo world stop reader constituent reader' := by
  cases pending : reader.pending? base with
  | none =>
    have filler := filler?_verb (readVerb_of_fresh unknown new pending)
    refine ⟨_, _, fillsTo_of_filler? ahead inside filler ?_⟩
    exact (reader.coinages_coin _).imp_right fun more => ⟨_, more⟩
  | some index =>
    obtain ⟨inRange, -⟩ := List.findIdx?_eq_some_iff_getElem.mp pending
    have there := List.getElem?_eq_getElem inRange
    have read := readVerb_of_pending unknown new pending there
    rw [if_pos (free index _ pending there)] at read
    exact ⟨_, _, fillsTo_of_filler? ahead inside (filler?_verb read) (Or.inl rfl)⟩

theorem fill_eq_none_of_pending {index : ℕ} {coinage : Coinage}
    (pending : reader.pending? base = some index)
    (there : reader.coinages[index]? = some coinage) (other : coinage.isVerb = false) :
    (verb true).fill world stop reader = none := by
  have read := readVerb_of_pending unknown new pending there
  rw [other, if_neg Bool.false_ne_true] at read
  rw [fill, filler?, read, Option.map_none]
  exact ite_self _

end New

/-- A new verb may end after each of the prepositions that follow its first word. It is read there
unless something else is pending under its name. -/
theorem fill_newVerb {first : Token} {rest : List Token}
    (ahead : reader.tokens.drop reader.position = first :: rest)
    (unknown : world.lexicon.longest? (first :: rest) = none)
    (coinable : world.isCoinable [first] = true)
    (le : n ≤ (rest.takeWhile (·.isOneOf prepositions)).length)
    (here : stop = reader.position + (n + 1)) :
    (verb true).Clashes world stop reader ∧ (verb true).fill world stop reader = none ∨
      ¬ (verb true).Clashes world stop reader ∧
        ∃ constituent reader', (verb true).FillsTo world stop reader constituent reader' := by
  have inside : stop ≤ reader.tokens.length := by
    have fewer := (List.takeWhile_sublist (·.isOneOf prepositions) (l := rest)).length_le
    have length := congrArg List.length ahead
    rw [List.length_drop, List.length_cons] at length
    omega
  have span : Reader.span reader.tokens reader.position stop = first :: rest.take n := by
    rw [here, span_eq_take_drop, ahead, List.take_succ_cons]
  have upTo : world.lexicon.longest? (Reader.span reader.tokens reader.position stop) = none := by
    rw [span, ← List.take_succ_cons, Lexicon.longest?_eq_none_iff]
    exact (Lexicon.longest?_eq_none_iff.mp unknown).take _
  have new : newVerb? world (Reader.span reader.tokens reader.position stop) =
      some (baseOf (Reader.span reader.tokens reader.position stop)) := by
    rw [span, newVerb?_eq_some coinable le]
  by_cases clash : (verb true).Clashes world stop reader
  · obtain ⟨-, -, index, coinage, pending, there, other⟩ := id clash
    exact Or.inl ⟨clash, fill_eq_none_of_pending upTo new pending there other⟩
  · refine Or.inr ⟨clash, fillsTo_of_newVerb upTo new (by omega) inside ?_⟩
    intro index coinage pending there
    by_contra other
    exact clash ⟨rfl, ahead ▸ unknown, index, coinage, pending, there, by simpa using other⟩

/-! ## All slots that settle where they end -/

/-- Every slot of a sentence offers phrases with words, and a slot that does is filled up to every
stop that it proposes, with one coinage at most, unless it would coin a verb whose name is pending
for something else. -/
theorem fill_of_mem_ends :
    (∀ text, (ofPlaceholder text).HasWords) ∧
    ∀ (world : World) (slot : Slot) (reader : Reader) (stop : ℕ), slot.HasWords →
      stop ∈ slot.ends world reader.tokens reader.position →
        slot.Clashes world stop reader ∧ slot.fill world stop reader = none ∨
        ¬ slot.Clashes world stop reader ∧
          ∃ constituent reader', slot.FillsTo world stop reader constituent reader' := by
  refine ⟨hasWords_ofPlaceholder, fun world slot reader stop worded mem => ?_⟩
  cases ahead : reader.tokens.drop reader.position with
  | nil => simp [ends, ahead] at mem
  | cons first rest =>
    have peek : reader.peek? = some first := by
      rw [Reader.peek?, ← List.head?_drop, ahead, List.head?_cons]
    cases slot with
    | count =>
      simp only [ends, ahead, List.mem_ite_nil_right, List.mem_singleton] at mem
      obtain ⟨counts, rfl⟩ := mem
      exact Or.inr ⟨fun clash => by simpa [Clashes] using clash.1, fillsTo_of_count peek counts⟩
    | choice phrases =>
      simp only [ends, ahead, List.mem_filterMap] at mem
      obtain ⟨phrase, among, ended⟩ := mem
      exact Or.inr ⟨fun clash => by simpa [Clashes] using clash.1,
        fillsTo_of_phrase among (worded phrase among) ended⟩
    | verb coin =>
      cases longest : world.lexicon.longest? (first :: rest) with
      | some found =>
        obtain ⟨entry, n⟩ := found
        simp only [ends, ahead, longest] at mem
        split at mem
        · rename_i known isVerb
          obtain rfl := List.mem_singleton.mp mem
          exact Or.inr ⟨fun clash => by simpa [ahead, longest] using clash.2.1,
            _, _, fillsTo_of_knownVerb coin (ahead ▸ longest) isVerb⟩
        · cases mem
      | none =>
        simp only [ends, ahead, longest, List.mem_ite_nil_right, Bool.and_eq_true] at mem
        obtain ⟨⟨rfl, coinable⟩, mem⟩ := mem
        obtain ⟨n, among, rfl⟩ := List.mem_map.mp mem
        rw [List.mem_reverse, List.mem_range] at among
        exact fill_newVerb ahead longest coinable (Nat.le_of_lt_succ among) (by omega)
    | _ => simp [ends, ahead] at mem

/-- A reader in front of a frequency. -/
def veryRare : Reader := .ofTokens (Name.ofText "very rare")

/-- A reader that has an adjective pending under a name that a verb could have. -/
def playWithToys : Reader :=
  { Reader.ofTokens (Name.ofText "play with toys") with
    coinages := [.adjective (Name.ofText "play")] }

/-- A frequency is read up to its end. Of the two stops of a new verb one would give the verb the
name of the pending adjective. -/
theorem fill_of_mem_ends_playWithToys :
    (choice frequencies).HasWords ∧
    2 ∈ (choice frequencies).ends .empty veryRare.tokens veryRare.position ∧
    (∃ constituent reader', (choice frequencies).FillsTo .empty 2 veryRare constituent reader') ∧
    (verb true).ends .empty playWithToys.tokens playWithToys.position = [2, 1] ∧
    (verb true).fill .empty 1 playWithToys = none ∧
    ∃ constituent reader', (verb true).FillsTo .empty 2 playWithToys constituent reader' := by
  have worded : (choice frequencies).HasWords := fill_of_mem_ends.1 "FREQUENCY"
  have rare : 2 ∈ (choice frequencies).ends .empty veryRare.tokens veryRare.position := by
    decide +kernel
  have play : (verb true).ends .empty playWithToys.tokens playWithToys.position = [2, 1] := by
    decide +kernel
  have short : 1 ∈ (verb true).ends .empty playWithToys.tokens playWithToys.position := by
    simp [play]
  have long : 2 ∈ (verb true).ends .empty playWithToys.tokens playWithToys.position := by
    simp [play]
  have free : (verb true).HasWords := trivial
  have clash : (verb true).Clashes .empty 1 playWithToys :=
    ⟨rfl, by decide +kernel, 0, .adjective (Name.ofText "play"), by decide +kernel, rfl, rfl⟩
  have fresh : playWithToys.pending? (baseOf (Reader.span playWithToys.tokens 0 2)) = none := by
    decide +kernel
  refine ⟨worded, rare, ?_, play, ?_, ?_⟩
  · rcases fill_of_mem_ends.2 _ _ _ _ worded rare with ⟨⟨isVerb, -⟩, -⟩ | ⟨-, fills⟩
    · cases isVerb
    · exact fills
  · rcases fill_of_mem_ends.2 _ _ _ _ free short with ⟨-, nothing⟩ | ⟨apart, -⟩
    · exact nothing
    · exact absurd clash apart
  · rcases fill_of_mem_ends.2 _ _ _ _ free long with ⟨other, -⟩ | ⟨-, fills⟩
    · obtain ⟨-, -, index, coinage, pending, -⟩ := other
      exact absurd (fresh.symm.trans pending) (by simp)
    · exact fills

end Slot

end Worldsmith
