import Worldsmith.Proofs.Language.Inflection
import Worldsmith.Proofs.Language.Lexicon
import Worldsmith.World.Edit

/-!
# Inflection and the case of letters

The forms of a word are made of what was typed: a rule cuts the stem off the word as it is, an
irregular form takes over its capital, and a gerund may double its last letter. Which of these it is
the small form of the word decides. So the forms of a word, in small letters, are the forms of the
word in small letters, and the forms of a name stand for the same thing however the name was typed.

## Main definitions

* `Inflection.IgnoresCase` — a way to inflect does not depend on the case of letters.
* `Token.Retyped` — tokens of ASCII letters that differ in the case of letters at most.

## Main statements

* `Inflection.ignoresCase_gerund` — gerunds do not depend on the case of letters.
* `Inflection.IgnoresCase.keys_eq` — forms of words that differ in case are looked up alike.
* `Inflection.ignores_case` — plurals, singulars, third persons and gerunds do not depend on the
  case of letters, neither those of words nor those of names.
-/

namespace Worldsmith

open Text (IsLatin IsSmall lowerText)

/-- On ASCII letters folding makes small letters. -/
theorem Token.key_eq_lowerText {token : Token} (latin : IsLatin token.text) :
    token.key = lowerText token.text := by
  rw [← String.toList_inj, Token.key, String.toList_ofList, Text.toList_lowerText latin, Text.fold,
    List.map_eq_flatMap]
  exact List.flatMap_congr fun c mem => Text.lowerChar_of_isAlpha (latin c mem)

/-- Whether two tokens of ASCII letters differ in the case of letters at most. -/
structure Token.Retyped (s t : Token) : Prop where
  latin : IsLatin s.text
  latin' : IsLatin t.text
  key : s.key = t.key

namespace Inflection

/-- Whether a way to inflect words gives the same forms, in small letters, whatever the case of the
letters of a word. -/
def IgnoresCase (inflect : String → Option String) : Prop :=
  ∀ word, IsLatin word → (∀ form, inflect word = some form → IsLatin form) ∧
    (inflect word).map lowerText = inflect (lowerText word)

section Gerund

variable {word : List Char} {text lower : String}

/-- The stem of a gerund is cut the same way off all words of the same length. -/
theorem map_gerundStem (f : Char → Char) (fixed : f 'y' = 'y') (word : List Char)
    (lower : String) : (gerundStem word lower).map f = gerundStem (word.map f) lower := by
  have last : (word.map f).getLast?.toList = word.getLast?.toList.map f := by
    rw [List.getLast?_map]
    cases word.getLast? <;> rfl
  unfold gerundStem
  dsimp only
  split_ifs
  · rw [List.map_append, List.map_take, List.length_map, List.map_singleton, fixed]
  · rw [List.map_dropLast]
  · rw [List.map_append, last]
  · rfl

theorem isAlpha_of_mem_gerundStem (letters : ∀ c ∈ word, c.isAlpha = true) :
    ∀ c ∈ gerundStem word lower, c.isAlpha = true := by
  intro c mem
  unfold gerundStem at mem
  dsimp only at mem
  split_ifs at mem
  · rcases List.mem_append.mp mem with mem | mem
    · exact letters c (List.mem_of_mem_take mem)
    · obtain rfl := List.mem_singleton.mp mem
      decide
  · exact letters c (List.mem_of_mem_dropLast mem)
  · rcases List.mem_append.mp mem with mem | mem
    · exact letters c mem
    · exact letters c (List.mem_of_getLast? (by simpa using mem))
  · exact letters c mem

theorem isLatin_gerund (latin : IsLatin text) : IsLatin (gerund text) := by
  have stem : IsLatin (String.ofList (gerundStem text.toList (lowerText text))) := by
    simpa [IsLatin] using isAlpha_of_mem_gerundStem latin
  exact stem.append (by decide)

theorem ignoresCase_gerund : IgnoresCase fun word => some (gerund word) := by
  intro word latin
  have again : lowerText (lowerText word) = lowerText word :=
    Text.lowerText_of_isSmall (Text.isSmall_lowerText latin)
  have suffix : "ing".toList.map Char.toLower = "ing".toList := by decide
  refine ⟨fun form made => Option.some.inj made ▸ isLatin_gerund latin, congrArg some ?_⟩
  rw [← String.toList_inj, Text.toList_lowerText (isLatin_gerund latin), gerund, gerund, again]
  simp only [String.toList_append, String.toList_ofList, List.map_append, suffix,
    map_gerundStem Char.toLower (by decide), Text.toList_lowerText latin]

end Gerund

section Number

variable {word : String}

theorem toOption_plural (word : String) :
    (plural word).toOption = other irregular endings word := by
  rw [plural]
  cases other irregular endings word <;> rfl

theorem toOption_singular (word : String) :
    (singular word).toOption = other (turned irregular) (turned endings) word := by
  rw [singular]
  cases other (turned irregular) (turned endings) word <;> rfl

theorem ignoresCase_plural : IgnoresCase fun word => (plural word).toOption := by
  intro word latin
  simp only [toOption_plural]
  exact other_lowerText smallForms_irregular smallForms_endings latin

theorem ignoresCase_singular : IgnoresCase fun word => (singular word).toOption := by
  intro word latin
  simp only [toOption_singular]
  exact other_lowerText smallForms_irregular.turned smallForms_endings.turned latin

/-- Every word has a plural: the last rule takes whatever is left. -/
theorem exists_plural (latin : IsLatin word) (nonempty : word ≠ "") :
    ∃ many, plural word = .ok many := by
  suffices some : (other irregular endings word).isSome by
    obtain ⟨many, made⟩ := Option.isSome_iff_exists.mp some
    exact ⟨many, by rw [plural, made]⟩
  have letters : (lowerText word).toList ≠ [] := by
    simpa [Text.toList_lowerText latin] using nonempty
  rw [other]
  cases irregular.lookup (lowerText word) with
  | some form => rfl
  | none =>
    rw [changeEnding_eq_map, Option.isSome_map, List.find?_isSome]
    refine ⟨("", "s"), by simp [endings], ?_⟩
    simpa [hasEnding] using List.length_pos_iff.mpr letters

end Number

/-! ## Names -/

/-- Forms of words that differ in the case of letters are looked up alike. -/
theorem IgnoresCase.keys_eq {inflect : String → Option String} (ignores : IgnoresCase inflect)
    {s t : Token} (retyped : s.Retyped t) :
    (inflect s.text).map (fun form => Token.key { s with text := form }) =
      (inflect t.text).map fun form => Token.key { t with text := form } := by
  have small (u : Token) (latin : IsLatin u.text) :
      (inflect u.text).map (fun form => Token.key { u with text := form }) =
        inflect (lowerText u.text) := by
    obtain ⟨latinForm, lower⟩ := ignores u.text latin
    rw [← lower]
    refine Option.map_congr fun form made => ?_
    exact Token.key_eq_lowerText (latinForm form made)
  have same : lowerText s.text = lowerText t.text := by
    rw [← Token.key_eq_lowerText retyped.latin, ← Token.key_eq_lowerText retyped.latin',
      retyped.key]
  rw [small s retyped.latin, small t retyped.latin', same]

section Names

variable {inflect : String → Except GrammarError String} {name other : Name}

theorem keys_inflectLast_singleton (inflect : String → Except GrammarError String) (last : Token) :
    (Name.inflectLast inflect [last]).toOption.map Name.keys =
      ((inflect last.text).toOption.map fun form => Token.key { last with text := form }).map
        ([·]) := by
  rw [Name.inflectLast]
  cases inflect last.text <;> rfl

theorem keys_inflectLast_cons (inflect : String → Except GrammarError String)
    (token next : Token) (rest : Name) :
    (Name.inflectLast inflect (token :: next :: rest)).toOption.map Name.keys =
      ((Name.inflectLast inflect (next :: rest)).toOption.map Name.keys).map (token.key :: ·) := by
  rw [Name.inflectLast]
  cases Name.inflectLast inflect (next :: rest) <;> rfl

theorem keys_thirdPerson_cons (first : Token) (rest : Name) :
    (Edit.thirdPerson (first :: rest)).toOption.map Name.keys =
      ((plural first.text).toOption.map fun form => Token.key { first with text := form }).map
        (· :: Name.keys rest) := by
  rw [Edit.thirdPerson]
  cases plural first.text <;> rfl

/-- A name whose last word is inflected is looked up alike however it was typed. -/
theorem IgnoresCase.keys_inflectLast (ignores : IgnoresCase fun word => (inflect word).toOption)
    (retyped : List.Forall₂ Token.Retyped name other) :
    (name.inflectLast inflect).toOption.map Name.keys =
      (other.inflectLast inflect).toOption.map Name.keys := by
  induction retyped with
  | nil => rfl
  | cons first others ih =>
    cases others with
    | nil => rw [keys_inflectLast_singleton, keys_inflectLast_singleton, ignores.keys_eq first]
    | cons second others =>
      rw [keys_inflectLast_cons, keys_inflectLast_cons, ih, first.key]

theorem keys_eq_of_retyped (retyped : List.Forall₂ Token.Retyped name other) :
    name.keys = other.keys := by
  induction retyped with
  | nil => rfl
  | cons first _ ih => rw [Name.keys_cons, Name.keys_cons, first.key, ih]

theorem keys_thirdPerson (retyped : List.Forall₂ Token.Retyped name other) :
    (Edit.thirdPerson name).toOption.map Name.keys =
      (Edit.thirdPerson other).toOption.map Name.keys := by
  cases retyped with
  | nil => rfl
  | cons first others =>
    rw [keys_thirdPerson_cons, keys_thirdPerson_cons, ignoresCase_plural.keys_eq first,
      keys_eq_of_retyped others]

theorem keys_gerund (retyped : List.Forall₂ Token.Retyped name other) :
    name.gerund.keys = other.gerund.keys := by
  cases retyped with
  | nil => rfl
  | cons first others =>
    rw [Name.gerund, Name.gerund, Name.keys_cons, Name.keys_cons, keys_eq_of_retyped others,
      List.cons.injEq]
    exact ⟨Option.some.inj (ignoresCase_gerund.keys_eq first), rfl⟩

end Names

/-- Inflection does not depend on the case of letters. The plural of a word of ASCII letters is, in
small letters, the plural of the word in small letters; so are its singular, if there is one, and
its gerund. And the forms of a name of such words are looked up alike however the name was typed. -/
theorem ignores_case :
    (∀ word, IsLatin word → word ≠ "" →
      (∃ many, plural word = .ok many ∧ plural (lowerText word) = .ok (lowerText many)) ∧
      (singular word).toOption.map lowerText = (singular (lowerText word)).toOption ∧
      lowerText (gerund word) = gerund (lowerText word)) ∧
    ∀ name other : Name, List.Forall₂ Token.Retyped name other →
      name.plural.toOption.map Name.keys = other.plural.toOption.map Name.keys ∧
      name.singular.toOption.map Name.keys = other.singular.toOption.map Name.keys ∧
      (Edit.thirdPerson name).toOption.map Name.keys =
        (Edit.thirdPerson other).toOption.map Name.keys ∧
      name.gerund.keys = other.gerund.keys := by
  refine ⟨fun word latin nonempty => ⟨?_, ?_, ?_⟩, fun name other retyped => ⟨?_, ?_, ?_, ?_⟩⟩
  · obtain ⟨many, made⟩ := exists_plural latin nonempty
    have small : (plural word).toOption.map lowerText = (plural (lowerText word)).toOption :=
      (ignoresCase_plural word latin).2
    refine ⟨many, made, ?_⟩
    rw [made] at small
    cases again : plural (lowerText word) with
    | error => simp [again, Except.toOption] at small
    | ok many' => simpa [again, Except.toOption, eq_comm] using small
  · exact (ignoresCase_singular word latin).2
  · exact Option.some.inj (ignoresCase_gerund word latin).2
  · exact ignoresCase_plural.keys_inflectLast retyped
  · exact ignoresCase_singular.keys_inflectLast retyped
  · exact keys_thirdPerson retyped
  · exact keys_gerund retyped

/-- A word in capitals, and a name with capitals here and there. -/
theorem ignores_case_mouse :
    (IsLatin "MOUSE" ∧ "MOUSE" ≠ "" ∧
      ∃ many, plural "MOUSE" = .ok many ∧ plural (lowerText "MOUSE") = .ok (lowerText many)) ∧
    List.Forall₂ Token.Retyped [.word "House", .word "Mouse"] [.word "hOUSE", .word "mOUSE"] ∧
    (Name.plural [.word "hOUSE", .word "mOUSE"]).toOption.map Name.keys =
      some ["house", "mice"] := by
  have latin : IsLatin "MOUSE" := by decide
  have nonempty : "MOUSE" ≠ "" := by decide
  have retyped : List.Forall₂ Token.Retyped [.word "House", .word "Mouse"]
      [.word "hOUSE", .word "mOUSE"] :=
    .cons ⟨by decide, by decide, by decide +kernel⟩
      (.cons ⟨by decide, by decide, by decide +kernel⟩ .nil)
  have mice : (Name.plural [.word "House", .word "Mouse"]).toOption.map Name.keys =
      some ["house", "mice"] := by
    decide +kernel
  have same := (ignores_case.2 _ _ retyped).1
  exact ⟨⟨latin, nonempty, (ignores_case.1 "MOUSE" latin nonempty).1⟩, retyped, same ▸ mice⟩

end Inflection

end Worldsmith
