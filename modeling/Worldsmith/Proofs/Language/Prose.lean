import Mathlib
import Worldsmith.Language.Prose
import Worldsmith.Proofs.Lists
import Worldsmith.Proofs.Text.Classes

/-!
# Cutting prose into tokens

Joined tokens are cut where they were joined. A space may be missing between two tokens, but only
where one of them is a punctuation mark, and a mark never runs together with what is beside it.

## Main definitions

* `Token.isTyped` — whether text can be cut so that the token comes out.
* `Token.Spells` — whether a token, as it is written, is cut into certain tokens, whatever it is
  joined to.
* `Spelled` — whether some tokens spell others, one after another.

## Main statements

* `isTyped_of_scan` — only typed tokens come out.
* `Spelled.scan_untokenizeFrom` — what joined tokens spell is what they are cut into.
* `tokenize_untokenize` — typed tokens are cut apart again as they were before they were joined.
* `untokenize_append_words` — words are joined with spaces between them, wherever they are cut.
-/

namespace Worldsmith

/-- Whether text can be cut so that a token comes out. -/
def Token.isTyped (token : Token) : Bool :=
  match token.kind with
  | .word => !token.text.toList.isEmpty && token.text.toList.all Text.isAlphabetic
  | .number => !token.text.toList.isEmpty && token.text.toList.all Char.isDigit
  | .punctuation =>
    match token.text.toList with
    | [c] => isPunctuation c
    | _ => false
  | .marker => false

/-- Whether a word or a number ends in front of some text. -/
def Breaks (rest : List Char) : Prop :=
  ∀ c ∈ rest.head?, Text.isAlphabetic c = false ∧ c.isDigit = false

/-! ## Cutting off one token -/

section Scanning

variable {c : Char} {cs rest : List Char}

theorem breaks_nil : Breaks [] := by simp [Breaks]

theorem breaks_space : Breaks (' ' :: rest) := by
  intro c mem
  obtain rfl : ' ' = c := by simpa using mem
  exact ⟨by decide, by decide⟩

theorem breaks_of_isPunctuation (mark : isPunctuation c = true) : Breaks (c :: rest) := by
  intro d mem
  obtain rfl : c = d := by simpa using mem
  exact ⟨isAlphabetic_of_isPunctuation mark, isDigit_of_isPunctuation mark⟩

theorem Breaks.takeWhile_eq_nil (breaks : Breaks rest) :
    rest.takeWhile Text.isAlphabetic = [] ∧ rest.takeWhile Char.isDigit = [] := by
  cases rest with
  | nil => exact ⟨rfl, rfl⟩
  | cons c rest =>
    obtain ⟨letter, digit⟩ := breaks c rfl
    simp [letter, digit]

theorem Breaks.dropWhile_eq_self (breaks : Breaks rest) :
    rest.dropWhile Text.isAlphabetic = rest ∧ rest.dropWhile Char.isDigit = rest := by
  cases rest with
  | nil => exact ⟨rfl, rfl⟩
  | cons c rest =>
    obtain ⟨letter, digit⟩ := breaks c rfl
    simp [letter, digit]

theorem scan_space (rest : List Char) : scan (' ' :: rest) = scan rest := by
  rw [scan, if_pos (by decide)]

theorem scan_mark (mark : isPunctuation c = true) :
    scan (c :: rest) = (scan rest).map (⟨.punctuation, String.singleton c⟩ :: ·) := by
  rw [scan, if_neg (by simp [isBlank_of_isPunctuation mark]),
    if_neg (by simp [isAlphabetic_of_isPunctuation mark]),
    if_neg (by simp [isDigit_of_isPunctuation mark])]
  simp [punctuation?, mark]

theorem scan_word (letters : ∀ a ∈ c :: cs, Text.isAlphabetic a = true) (breaks : Breaks rest) :
    scan (c :: cs ++ rest) = (scan rest).map (⟨.word, String.ofList (c :: cs)⟩ :: ·) := by
  obtain ⟨first, others⟩ := List.forall_mem_cons.mp letters
  rw [List.cons_append, scan, if_neg (by simp [isBlank_of_isAlphabetic first]), if_pos first,
    List.dropWhile_append_of_pos others, List.takeWhile_append_of_pos others,
    breaks.dropWhile_eq_self.1, breaks.takeWhile_eq_nil.1, List.append_nil]

theorem scan_number (digits : ∀ a ∈ c :: cs, a.isDigit = true) (breaks : Breaks rest) :
    scan (c :: cs ++ rest) = (scan rest).map (⟨.number, String.ofList (c :: cs)⟩ :: ·) := by
  obtain ⟨first, others⟩ := List.forall_mem_cons.mp digits
  rw [List.cons_append, scan, if_neg (by simp [isBlank_of_isDigit first]),
    if_neg (by simp [isAlphabetic_of_isDigit first]), if_pos first,
    List.dropWhile_append_of_pos others, List.takeWhile_append_of_pos others,
    breaks.dropWhile_eq_self.2, breaks.takeWhile_eq_nil.2, List.append_nil]

end Scanning

/-- The mark that a character counts as is punctuation. -/
theorem isPunctuation_of_punctuation? {c mark : Char} (counts : punctuation? c = some mark) :
    isPunctuation mark = true := by
  unfold punctuation? straighten? at counts
  split_ifs at counts with plain
  · cases counts
    exact plain
  · split at counts <;> cases counts <;> decide

/-- Only typed tokens come out of cutting. -/
theorem isTyped_of_scan {cs : List Char} {tokens : List Token} (cut : scan cs = .ok tokens) :
    ∀ token ∈ tokens, token.isTyped = true := by
  fun_induction scan cs generalizing tokens with
  | case1 =>
    cases cut
    simp
  | case2 c rest _ ih => exact ih cut
  | case3 c rest _ letter _ ih =>
    obtain ⟨others, made, rfl⟩ := exists_of_map_eq_ok cut
    refine List.forall_mem_cons.mpr ⟨?_, ih made⟩
    simp [Token.isTyped, letter, List.all_takeWhile]
  | case4 c rest _ _ digit _ ih =>
    obtain ⟨others, made, rfl⟩ := exists_of_map_eq_ok cut
    refine List.forall_mem_cons.mpr ⟨?_, ih made⟩
    simp [Token.isTyped, digit, List.all_takeWhile]
  | case5 c rest _ _ _ mark counts ih =>
    obtain ⟨others, made, rfl⟩ := exists_of_map_eq_ok cut
    refine List.forall_mem_cons.mpr ⟨?_, ih made⟩
    simp [Token.isTyped, isPunctuation_of_punctuation? counts]
  | case6 => cases cut

/-! ## Joined tokens -/

/-- Whether a token, as it is written, is cut into certain tokens, whatever it is joined to. Only
words and numbers need a break after them. -/
structure Token.Spells (token : Token) (parts : List Token) : Prop where
  kind_ne : token.kind ≠ .marker
  nonempty : token.text.isEmpty = false
  apostrophe : token.text = "'" → token.kind = .punctuation
  mark : token.kind = .punctuation → ∃ c, isPunctuation c = true ∧ token.text.toList = [c]
  reads : ∀ rest, (token.kind = .punctuation ∨ Breaks rest) →
    scan (token.text.toList ++ rest) = (scan rest).map (parts ++ ·)

/-- A typed token spells itself. -/
theorem Token.spells_of_isTyped {token : Token} (typed : token.isTyped = true) :
    token.Spells [token] := by
  obtain ⟨kind, text⟩ := token
  obtain ⟨cs, rfl⟩ : ∃ cs, text = String.ofList cs := ⟨text.toList, by simp⟩
  have apart {p : Char → Bool} (none : p '\'' = false) (all : cs.all p = true) :
      String.ofList cs ≠ "'" := by
    rintro same
    obtain rfl : cs = ['\''] := by simpa using congrArg String.toList same
    simp [none] at all
  cases kind with
  | marker => cases typed
  | punctuation =>
    obtain ⟨c, rfl, mark⟩ : ∃ c, cs = [c] ∧ isPunctuation c = true := by
      simp only [isTyped, String.toList_ofList] at typed
      split at typed
      · exact ⟨_, rfl, typed⟩
      · cases typed
    refine ⟨by simp, by simp, fun _ => rfl, fun _ => ⟨c, mark, by simp⟩, fun rest _ => ?_⟩
    rw [String.toList_ofList, ← String.singleton_eq_ofList]
    exact scan_mark mark
  | word =>
    simp only [isTyped, String.toList_ofList, Bool.and_eq_true, Bool.not_eq_true'] at typed
    obtain ⟨some, letters⟩ := typed
    refine ⟨by simp, by simpa using some, fun same => absurd same (apart (by decide) letters),
      by simp, fun rest breaks => ?_⟩
    rw [String.toList_ofList]
    cases cs with
    | nil => cases some
    | cons c cs => exact scan_word (List.all_eq_true.mp letters) (breaks.resolve_left (by simp))
  | number =>
    simp only [isTyped, String.toList_ofList, Bool.and_eq_true, Bool.not_eq_true'] at typed
    obtain ⟨some, digits⟩ := typed
    refine ⟨by simp, by simpa using some, fun same => absurd same (apart (by decide) digits),
      by simp, fun rest breaks => ?_⟩
    rw [String.toList_ofList]
    cases cs with
    | nil => cases some
    | cons c cs => exact scan_number (List.all_eq_true.mp digits) (breaks.resolve_left (by simp))

/-- Whether some tokens spell others, one after another. -/
inductive Spelled : List Token → List Token → Prop
  | nil : Spelled [] []
  | cons {token : Token} {parts tokens more : List Token} (first : token.Spells parts)
      (rest : Spelled tokens more) : Spelled (token :: tokens) (parts ++ more)

theorem spelled_of_isTyped {tokens : List Token}
    (typed : ∀ token ∈ tokens, token.isTyped = true) : Spelled tokens tokens := by
  induction tokens with
  | nil => exact .nil
  | cons token tokens ih =>
    obtain ⟨first, others⟩ := List.forall_mem_cons.mp typed
    exact .cons (Token.spells_of_isTyped first) (ih others)

/-- What is joined to a word or a number begins with a break. -/
theorem Spelled.breaks_untokenizeFrom {state : ProseState} {previous : Token}
    {tokens parts : List Token} {rest : List Char} (spelled : Spelled tokens parts)
    (after : state.previous = some previous) (notMark : previous.kind ≠ .punctuation)
    (apostrophe : previous.text = "'" → previous.kind = .punctuation) (breaks : Breaks rest) :
    Breaks ((untokenizeFrom state tokens).toList ++ rest) := by
  cases spelled with
  | nil => simpa [untokenizeFrom] using breaks
  | @cons token parts tokens more first _ =>
    rw [untokenizeFrom, if_neg (by simp [first.nonempty])]
    by_cases spaced : state.spaceBefore token = true
    · rw [if_pos spaced]
      simpa using breaks_space
    · -- what clings to a word or a number is a punctuation mark
      have mark : token.kind = .punctuation := by
        have notOpening : ProseState.opens previous state.quoting = false := by
          simp [ProseState.opens, Token.isMark, notMark]
        have notContraction : ProseState.contracts previous token = false := by
          have := mt apostrophe notMark
          simp [ProseState.contracts, this]
        have clings : ProseState.clings token state.quoting = true := by
          simpa [ProseState.spaceBefore, after, notOpening, notContraction] using spaced
        have := first.kind_ne
        by_contra other
        simp [ProseState.clings, Token.isMark, this, other] at clings
      obtain ⟨c, punctuation, text⟩ := first.mark mark
      rw [if_neg spaced, Token.render, if_neg first.kind_ne]
      simpa [text] using breaks_of_isPunctuation punctuation

/-- What joined tokens spell is what they are cut into. -/
theorem Spelled.scan_untokenizeFrom {state : ProseState} {tokens parts : List Token}
    {rest : List Char} (spelled : Spelled tokens parts) (breaks : Breaks rest) :
    scan ((untokenizeFrom state tokens).toList ++ rest) = (scan rest).map (parts ++ ·) := by
  induction spelled generalizing state with
  | nil =>
    rw [untokenizeFrom]
    cases h : scan rest <;> simp [Except.map, h]
  | @cons token parts tokens more first others ih =>
    have reads := first.reads ((untokenizeFrom (state.after token) tokens).toList ++ rest) <| by
      by_cases mark : token.kind = .punctuation
      · exact .inl mark
      · exact .inr (others.breaks_untokenizeFrom rfl mark first.apostrophe breaks)
    have joined : (untokenizeFrom state (token :: tokens)).toList ++ rest =
        (if state.spaceBefore token then [' '] else []) ++ (token.text.toList ++
          ((untokenizeFrom (state.after token) tokens).toList ++ rest)) := by
      rw [untokenizeFrom, if_neg (by simp [first.nonempty]), Token.render, if_neg first.kind_ne]
      split <;> simp
    have spaced (cs : List Char) :
        scan ((if state.spaceBefore token then [' '] else []) ++ cs) = scan cs := by
      split
      · exact scan_space cs
      · rfl
    rw [joined, spaced, reads, ih]
    cases scan rest <;> simp [Except.map]

/-- Joined tokens are cut into what they spell. -/
theorem Spelled.tokenize_eq_ok {tokens parts : List Token} (spelled : Spelled tokens parts) :
    tokenize (untokenize tokens) = .ok parts := by
  have cut : scan ((untokenizeFrom .start tokens).toList ++ []) = (scan []).map (parts ++ ·) :=
    spelled.scan_untokenizeFrom breaks_nil
  rw [List.append_nil] at cut
  rw [tokenize, untokenize, cut, scan]
  simp [Except.map, Except.mapError]

theorem isTyped_of_tokenize {text : String} {tokens : List Token}
    (cut : tokenize text = .ok tokens) : ∀ token ∈ tokens, token.isTyped = true := by
  unfold tokenize Except.mapError at cut
  split at cut
  · cases cut
  · rename_i same
    cases cut
    exact isTyped_of_scan same

/-- Typed tokens are cut apart again as they were before they were joined, and so are the tokens of
whatever text can be cut at all. -/
theorem tokenize_untokenize :
    (∀ tokens : List Token, (∀ token ∈ tokens, token.isTyped = true) →
      tokenize (untokenize tokens) = .ok tokens) ∧
    ∀ (text : String) (tokens : List Token), tokenize text = .ok tokens →
      tokenize (untokenize tokens) = .ok tokens := by
  have joined (tokens : List Token) (typed : ∀ token ∈ tokens, token.isTyped = true) :
      tokenize (untokenize tokens) = .ok tokens :=
    (spelled_of_isTyped typed).tokenize_eq_ok
  exact ⟨joined, fun text tokens cut => joined tokens (isTyped_of_tokenize cut)⟩

/-- A line with a contraction, a hyphen, a quotation and brackets, as tokens. -/
def squeakyBall : List Token :=
  [⟨.word, "Fred"⟩, ⟨.punctuation, "'"⟩, ⟨.word, "s"⟩, ⟨.number, "3"⟩, ⟨.word, "well"⟩,
   ⟨.punctuation, "-"⟩, ⟨.word, "known"⟩, ⟨.punctuation, "\""⟩, ⟨.word, "balls"⟩,
   ⟨.punctuation, "\""⟩, ⟨.punctuation, "("⟩, ⟨.word, "Éclair"⟩, ⟨.punctuation, ")"⟩,
   ⟨.punctuation, "."⟩]

theorem tokenize_untokenize_squeakyBall :
    (∀ token ∈ squeakyBall, token.isTyped = true) ∧
      tokenize (untokenize squeakyBall) = .ok squeakyBall ∧
      tokenize "Fred 's 3 well -known \"balls\"(Éclair) ." = .ok squeakyBall := by
  have typed : ∀ token ∈ squeakyBall, token.isTyped = true := by decide +kernel
  have cut : tokenize "Fred 's 3 well -known \"balls\"(Éclair) ." = .ok squeakyBall := by cbv
  exact ⟨typed, tokenize_untokenize.1 _ typed, cut⟩

/-! ## Words with spaces between them -/

/-- A word that is typed is not written like nothing, or like an apostrophe. -/
theorem Token.text_of_isTyped_word {word : Token} (kind : word.kind = .word)
    (typed : word.isTyped = true) : word.text.isEmpty = false ∧ word.text ≠ "'" := by
  have spells := Token.spells_of_isTyped typed
  exact ⟨spells.nonempty, fun same => by cases kind.symm.trans (spells.apostrophe same)⟩

theorem untokenizeFrom_cons {state : ProseState} {word : Token} (rest : List Token)
    (nonempty : word.text.isEmpty = false) : untokenizeFrom state (word :: rest) =
      (if state.spaceBefore word then " " else "") ++ word.render ++
        untokenizeFrom (state.after word) rest := by
  rw [untokenizeFrom, if_neg (by simp [nonempty])]

/-- Between two words is a space. -/
theorem untokenizeFrom_word {word previous : Token} {quoting : Bool} (rest : List Token)
    (kind : word.kind = .word) (typed : word.isTyped = true) (kind' : previous.kind = .word)
    (typed' : previous.isTyped = true) :
    untokenizeFrom ⟨some previous, quoting⟩ (word :: rest) =
      " " ++ untokenizeFrom ⟨none, quoting⟩ (word :: rest) := by
  obtain ⟨nonempty, -⟩ := Token.text_of_isTyped_word kind typed
  obtain ⟨-, apostrophe⟩ := Token.text_of_isTyped_word kind' typed'
  have spaced : ProseState.spaceBefore ⟨some previous, quoting⟩ word = true := by
    simp [ProseState.spaceBefore, ProseState.opens, ProseState.contracts, ProseState.clings,
      Token.isMark, kind, kind', apostrophe]
  rw [untokenizeFrom_cons _ nonempty, untokenizeFrom_cons _ nonempty, if_pos spaced]
  simp [ProseState.spaceBefore, ProseState.after, String.append_assoc]

theorem untokenize_append_words {xs ys : List Token} (some : xs ≠ []) (some' : ys ≠ [])
    (words : ∀ token ∈ xs ++ ys, token.kind = .word ∧ token.isTyped = true) :
    untokenize (xs ++ ys) = untokenize xs ++ " " ++ untokenize ys := by
  suffices joined : ∀ previous, untokenizeFrom ⟨previous, false⟩ (xs ++ ys) =
      untokenizeFrom ⟨previous, false⟩ xs ++ " " ++ untokenize ys from joined none
  induction xs with
  | nil => exact absurd rfl some
  | cons word rest ih =>
    intro previous
    obtain ⟨⟨kind, typed⟩, others⟩ := List.forall_mem_cons.mp words
    obtain ⟨nonempty, -⟩ := Token.text_of_isTyped_word kind typed
    have still : ProseState.after ⟨previous, false⟩ word = ⟨word, false⟩ := by
      simp [ProseState.after, Token.isMark, kind]
    rw [List.cons_append, untokenizeFrom_cons _ nonempty, untokenizeFrom_cons _ nonempty, still]
    cases rest with
    | nil =>
      obtain ⟨next, more, rfl⟩ := List.exists_cons_of_ne_nil some'
      obtain ⟨kind', typed'⟩ := others next List.mem_cons_self
      rw [List.nil_append, untokenizeFrom_word more kind' typed' kind typed]
      simp only [String.append_assoc]
      rw [untokenizeFrom, String.empty_append]
      rfl
    | cons next more =>
      rw [ih (List.cons_ne_nil _ _) others]
      simp only [String.append_assoc]

end Worldsmith
