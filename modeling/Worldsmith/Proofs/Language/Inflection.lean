import Worldsmith.Language.Inflection
import Worldsmith.Proofs.Text.SmallLetters

/-!
# Singulars of plurals

How a word is inflected depends on its small form only. Of a small word that is regular, the first
rule whose ending it has makes the plural. No plural ending of one of these rules is the end of
another, so the way back begins with the same rule, unless the word has none of the endings and
only looks, once it has its "s", as if it had one: "pies" could be the plural of "py". Besides, some
regular plurals are irregular plurals of other words: "leaves".

## Main definitions

* `Inflection.markedEndings` — the rules that ask for an ending.
* `Inflection.back` — the singular of the plural of a word.
* `Inflection.isMisread` — whether the plural of a word is taken for that of another.

## Main statements

* `Inflection.other_lowerText` — inflection does not depend on the case of letters.
* `Inflection.back_eq_self_iff` — for small words, the way back from the plural leads to the word
  if and only if the plural is not taken for that of another.
* `Inflection.singular_plural_iff` — the same for all words of ASCII letters, whatever their case.
-/

namespace Worldsmith.Inflection

open Text (IsLatin IsSmall lowerText)

/-! ## Letter case -/

/-- Whether all forms of a table are small. -/
def SmallForms (pairs : List (String × String)) : Prop :=
  ∀ pair ∈ pairs, IsSmall pair.1 ∧ IsSmall pair.2

instance (pairs : List (String × String)) : Decidable (SmallForms pairs) :=
  inferInstanceAs (Decidable (∀ pair ∈ pairs, IsSmall pair.1 ∧ IsSmall pair.2))

theorem smallForms_irregular : SmallForms irregular := by decide +kernel

theorem smallForms_endings : SmallForms endings := by decide

theorem SmallForms.turned {pairs : List (String × String)} (small : SmallForms pairs) :
    SmallForms (turned pairs) := by
  intro pair mem
  obtain ⟨other, among, rfl⟩ := List.mem_map.mp mem
  exact (small other among).symm

theorem SmallForms.of_lookup {pairs : List (String × String)} {word form : String}
    (small : SmallForms pairs) (found : pairs.lookup word = some form) : IsSmall form := by
  obtain ⟨before, after, rfl, -⟩ := List.lookup_eq_some_iff.mp found
  exact (small (word, form) (by simp)).2

section LetterCase

variable {word form : String} {exceptions rules : List (String × String)}

theorem matchCase_of_isSmall (small : IsSmall word) : matchCase word form = form := by
  unfold matchCase
  split
  · rename_i first _ _ _ letters _
    rw [if_neg (by simp [Text.isUppercase_of_isLower (small first (by simp [letters]))])]
  · rfl

/-- A small form that takes over a capital is still the same form. -/
theorem lowerText_matchCase (word : String) (small : IsSmall form) :
    IsLatin (matchCase word form) ∧ lowerText (matchCase word form) = form := by
  have same : IsLatin form ∧ lowerText form = form :=
    ⟨small.isLatin, Text.lowerText_of_isSmall small⟩
  unfold matchCase
  split
  · rename_i first others letter rest _ letters
    obtain ⟨one, more⟩ : letter.isLower = true ∧ ∀ c ∈ rest, c.isLower = true := by
      simpa [IsSmall, letters] using small
    split_ifs
    · have latin : IsLatin (String.ofList (letter.toUpper :: rest)) := by
        simpa [IsLatin, Text.isAlpha_toUpper one] using
          fun c mem => Text.isAlpha_of_isLower (more c mem)
      refine ⟨latin, ?_⟩
      rw [← String.toList_inj, Text.toList_lowerText latin, String.toList_ofList, letters,
        List.map_cons, Text.toLower_toUpper one]
      simpa using List.map_congr_left fun c mem => Text.toLower_of_isLower (more c mem)
    · exact same
  · exact same

/-- The first rule whose ending a word has changes the ending. -/
theorem changeEnding_eq_map (rules : List (String × String)) (word : String) :
    changeEnding rules word =
      (rules.find? fun rule => hasEnding (lowerText word).toList rule.1.toList).map fun rule =>
        String.ofList (word.toList.take (word.toList.length - rule.1.toList.length)) ++ rule.2 :=
  rfl

/-- A rule takes the same off a word and off its small form. -/
theorem lowerText_ofList_take (latin : IsLatin word) (n : Nat) :
    lowerText (String.ofList (word.toList.take (word.toList.length - n))) =
      String.ofList ((lowerText word).toList.take ((lowerText word).toList.length - n)) := by
  rw [← String.toList_inj, Text.toList_lowerText (latin.ofList_take _), String.toList_ofList,
    String.toList_ofList, Text.toList_lowerText latin, List.length_map, List.map_take]

theorem changeEnding_lowerText (small : SmallForms rules) (latin : IsLatin word) :
    (∀ form, changeEnding rules word = some form → IsLatin form) ∧
      (changeEnding rules word).map lowerText = changeEnding rules (lowerText word) := by
  have again : lowerText (lowerText word) = lowerText word :=
    Text.lowerText_of_isSmall (Text.isSmall_lowerText latin)
  rw [changeEnding_eq_map, changeEnding_eq_map, again]
  cases found : rules.find? fun rule => hasEnding (lowerText word).toList rule.1.toList with
  | none => simp
  | some rule =>
    have ending := (small rule (List.mem_of_find?_eq_some found)).2
    have stem := latin.ofList_take (word.toList.length - rule.1.toList.length)
    refine ⟨?_, ?_⟩
    · rintro form made
      obtain rfl := Option.some.inj made
      exact stem.append ending.isLatin
    · rw [Option.map_some, Option.map_some, Option.map_some,
        Text.lowerText_append stem ending.isLatin, Text.lowerText_of_isSmall ending,
        lowerText_ofList_take latin]

/-- Inflection does not depend on the case of letters. -/
theorem other_lowerText (smallExceptions : SmallForms exceptions) (smallRules : SmallForms rules)
    (latin : IsLatin word) :
    (∀ form, other exceptions rules word = some form → IsLatin form) ∧
      (other exceptions rules word).map lowerText = other exceptions rules (lowerText word) := by
  have again : lowerText (lowerText word) = lowerText word :=
    Text.lowerText_of_isSmall (Text.isSmall_lowerText latin)
  unfold other
  rw [again]
  cases found : exceptions.lookup (lowerText word) with
  | none => exact changeEnding_lowerText smallRules latin
  | some form =>
    have small := smallExceptions.of_lookup found
    obtain ⟨isLatin, lower⟩ := lowerText_matchCase word small
    refine ⟨?_, ?_⟩
    · rintro other made
      obtain rfl := Option.some.inj made
      exact isLatin
    · rw [Option.map_some, lower]
      exact congrArg some (matchCase_of_isSmall (Text.isSmall_lowerText latin)).symm

end LetterCase

/-! ## Rules back and forth -/

/-- The rules that ask for an ending: all but the last. -/
def markedEndings : List (String × String) := endings.dropLast

theorem endings_eq : endings = markedEndings ++ [("", "s")] := rfl

/-- No plural ending of a rule that asks for one is the end of that of another. -/
theorem pairwise_markedEndings :
    markedEndings.Pairwise fun a b =>
      ¬ a.2.toList <:+ b.2.toList ∧ ¬ b.2.toList <:+ a.2.toList := by
  decide

section Rules

variable {word stem : String} {rule : String × String} {rules : List (String × String)}

theorem hasEnding_iff {ending : String} :
    hasEnding word.toList ending.toList = true ↔ ∃ stem, stem ≠ "" ∧ word = stem ++ ending := by
  simp only [hasEnding, Bool.and_eq_true, List.isSuffixOf_iff_suffix, decide_eq_true_eq]
  constructor
  · rintro ⟨⟨letters, same⟩, shorter⟩
    refine ⟨String.ofList letters, ?_, by simp [← String.toList_inj, same]⟩
    rintro none
    obtain rfl : letters = [] := by simpa using congrArg String.toList none
    simp [← same] at shorter
  · rintro ⟨stem, nonempty, rfl⟩
    have : stem.toList ≠ [] := by simpa using nonempty
    refine ⟨⟨stem.toList, by simp⟩, ?_⟩
    simpa using List.length_pos_iff.mpr this

theorem hasEnding_append {ending : String} (nonempty : stem ≠ "") :
    hasEnding (stem ++ ending).toList ending.toList = true :=
  hasEnding_iff.mpr ⟨stem, nonempty, rfl⟩

/-- What stands before an ending. -/
theorem ofList_take_append (stem ending : String) :
    String.ofList ((stem ++ ending).toList.take
      ((stem ++ ending).toList.length - ending.toList.length)) = stem := by
  rw [String.toList_append, List.length_append, Nat.add_sub_cancel, List.take_left' rfl,
    String.ofList_toList]

/-- A rule that is found for a small word puts its second ending in place of its first. -/
theorem changeEnding_of_find? (rule : String × String) (small : IsSmall (stem ++ rule.1))
    (found : (rules.find? fun r => hasEnding (stem ++ rule.1).toList r.1.toList) = some rule) :
    changeEnding rules (stem ++ rule.1) = some (stem ++ rule.2) := by
  rw [changeEnding_eq_map, Text.lowerText_of_isSmall small, found, Option.map_some,
    ofList_take_append]

/-- The rule that made a plural is the first that its ending leads back to. -/
theorem find?_turned (nonempty : stem ≠ "") (among : rule ∈ rules)
    (apart : rules.Pairwise fun a b =>
      ¬ a.2.toList <:+ b.2.toList ∧ ¬ b.2.toList <:+ a.2.toList) :
    ((turned rules).find? fun r => hasEnding (stem ++ rule.2).toList r.1.toList) =
      some rule.swap := by
  rw [turned, List.find?_map]
  suffices found : (rules.find? fun r => hasEnding (stem ++ rule.2).toList r.2.toList) =
      some rule from congrArg (Option.map Prod.swap) found
  induction rules with
  | nil => cases among
  | cons first rest ih =>
    obtain ⟨others, apart⟩ := List.pairwise_cons.mp apart
    rcases List.mem_cons.mp among with rfl | later
    · exact List.find?_cons_of_pos (hasEnding_append nonempty)
    · rw [List.find?_cons_of_neg, ih later apart]
      intro has
      obtain ⟨stem', -, same⟩ := hasEnding_iff.mp has
      obtain ⟨notFirst, notRule⟩ := others rule later
      have ofRule : rule.2.toList <:+ (stem ++ rule.2).toList := ⟨stem.toList, by simp⟩
      have ofFirst : first.2.toList <:+ (stem ++ rule.2).toList :=
        ⟨stem'.toList, by rw [same, String.toList_append]⟩
      exact (List.suffix_or_suffix_of_suffix ofFirst ofRule).elim notFirst notRule

/-- The first rule whose ending a small word has changes it, and the last if there is none. -/
theorem changeEnding_append (rules : List (String × String)) (last : String × String)
    (small : IsSmall word) (same : word = stem ++ last.1) (nonempty : stem ≠ "") :
    (∃ rule ∈ rules, ∃ front, front ≠ "" ∧ word = front ++ rule.1 ∧
      changeEnding (rules ++ [last]) word = some (front ++ rule.2)) ∨
    ((∀ rule ∈ rules, hasEnding word.toList rule.1.toList = false) ∧
      changeEnding (rules ++ [last]) word = some (stem ++ last.2)) := by
  cases found : rules.find? fun rule => hasEnding word.toList rule.1.toList with
  | some rule =>
    left
    have has : hasEnding word.toList rule.1.toList = true := by simpa using List.find?_some found
    obtain ⟨front, frontNonempty, rfl⟩ := hasEnding_iff.mp has
    refine ⟨rule, List.mem_of_find?_eq_some found, front, frontNonempty, rfl, ?_⟩
    exact changeEnding_of_find? rule small (by rw [List.find?_append, found, Option.some_or])
  | none =>
    right
    subst same
    refine ⟨by simpa using found, changeEnding_of_find? last small ?_⟩
    rw [List.find?_append, found, Option.none_or]
    exact List.find?_cons_of_pos (hasEnding_append nonempty)

end Rules

/-! ## The way back from the plural -/

/-- The singular of the plural of a word. -/
def back (word : String) : Option String :=
  (other irregular endings word).bind (other (turned irregular) (turned endings))

/-- What is left of plural endings without their "s", where the rule has another ending in the
singular. -/
def misreadEndings : List String := ["sse", "she", "che", "xe", "zze", "ie"]

/-- Words whose regular plurals are the irregular plurals of other words, unless they have one of
the endings as well. -/
def misreadWords : List String :=
  ["leave", "loave", "thieve", "wolve", "elve", "dwarve", "halve", "shelve", "calve", "knive",
   "wive", "live", "heroe", "potatoe", "tomatoe", "echoe", "buse", "gase", "sery", "specy"]

/-- Whether the plural of a small word is taken for that of another. -/
def isMisread (word : String) : Bool :=
  misreadWords.contains word ||
    (word != "die" && misreadEndings.any fun ending => hasEnding word.toList ending.toList)

/-! Facts about the tables -/

/-- No word is in the table twice, neither in the singular nor in the plural. -/
theorem lookup_of_mem_irregular : ∀ pair ∈ irregular,
    irregular.lookup pair.1 = some pair.2 ∧ (turned irregular).lookup pair.2 = some pair.1 ∧
      isMisread pair.1 = false := by
  decide +kernel

theorem back_ne_of_mem_misreadWords : ∀ word ∈ misreadWords, back word ≠ some word := by
  decide +kernel

/-- With an "s" the plural ending of a rule is a misread ending or the singular ending of the rule,
but for that of "man". -/
theorem plural_ending : ∀ rule ∈ markedEndings, rule.2 = "men" ∨ rule.2 = rule.1 ++ "s" ∨
    ∃ ending ∈ misreadEndings, rule.2 = ending ++ "s" := by
  decide

theorem exists_rule_of_misreadEnding :
    ∀ ending ∈ misreadEndings, ∃ rule ∈ markedEndings, rule.2 = ending ++ "s" := by
  decide

/-- No singular ending of a rule is the end of a misread ending, nor the other way round. -/
theorem misreadEnding_apart : ∀ ending ∈ misreadEndings, ∀ rule ∈ markedEndings,
    ¬ ending.toList <:+ rule.1.toList ∧ ¬ rule.1.toList <:+ ending.toList := by
  decide

/-- Whatever a rule could have made an irregular plural of is irregular, misread or has another
plural. -/
theorem irregular_collisions : ∀ pair ∈ irregular, ∀ rule ∈ endings,
    let word := String.ofList (pair.2.toList.take (pair.2.toList.length - rule.2.toList.length)) ++
      rule.1
    hasEnding pair.2.toList rule.2.toList = true →
      (irregular.lookup word).isSome ∨ isMisread word = true ∨
        other irregular endings word ≠ some pair.2 := by
  decide +kernel

section Back

variable {word form : String}

theorem mem_of_lookup {pairs : List (String × String)} (found : pairs.lookup word = some form) :
    (word, form) ∈ pairs := by
  obtain ⟨before, after, rfl, -⟩ := List.lookup_eq_some_iff.mp found
  simp

theorem isMisread_iff : isMisread word = true ↔ word ∈ misreadWords ∨
    word ≠ "die" ∧ ∃ ending ∈ misreadEndings, hasEnding word.toList ending.toList = true := by
  simp [isMisread]

theorem isMisread_eq_false (back_eq : back word = some word)
    (apart : ∀ ending ∈ misreadEndings, hasEnding word.toList ending.toList = false) :
    isMisread word = false := by
  rw [← Bool.not_eq_true, isMisread_iff]
  rintro (listed | ⟨-, ending, among, has⟩)
  · exact back_ne_of_mem_misreadWords word listed back_eq
  · simp [apart ending among] at has

/-- The plural of a regular small word. -/
theorem other_of_regular (small : IsSmall word) (nonempty : word ≠ "")
    (regular : irregular.lookup word = none) :
    (∃ rule ∈ markedEndings, ∃ stem, stem ≠ "" ∧ word = stem ++ rule.1 ∧
      other irregular endings word = some (stem ++ rule.2)) ∨
    ((∀ rule ∈ markedEndings, hasEnding word.toList rule.1.toList = false) ∧
      other irregular endings word = some (word ++ "s")) := by
  have asked : other irregular endings word = changeEnding (markedEndings ++ [("", "s")]) word := by
    rw [other, Text.lowerText_of_isSmall small, regular, endings_eq]
  rw [asked]
  exact changeEnding_append markedEndings ("", "s") small (by simp) nonempty

theorem isSmall_of_other (small : IsSmall word) (made : other irregular endings word = some form) :
    IsSmall form := by
  obtain ⟨latin, lower⟩ := other_lowerText smallForms_irregular smallForms_endings small.isLatin
  rw [Text.lowerText_of_isSmall small, made, Option.map_some, Option.some.injEq] at lower
  rw [← lower]
  exact Text.isSmall_lowerText (latin form made)

theorem back_of_irregular {one : String} (small : IsSmall word)
    (made : other irregular endings word = some form)
    (listed : (turned irregular).lookup form = some one) : back word = some one := by
  have smallForm := isSmall_of_other small made
  rw [back, made, Option.bind_some, other, Text.lowerText_of_isSmall smallForm, listed]
  exact congrArg some (matchCase_of_isSmall smallForm)

/-- Where the plural is not irregular the way back asks the rules. -/
theorem back_of_regular (small : IsSmall word) (made : other irregular endings word = some form)
    (unlisted : (turned irregular).lookup form = none) :
    back word = changeEnding (turned markedEndings ++ [("s", "")]) form := by
  have smallForm := isSmall_of_other small made
  rw [back, made, Option.bind_some, other, Text.lowerText_of_isSmall smallForm, unlisted,
    endings_eq]
  rfl

/-- A form that is an irregular plural too is taken for that. -/
theorem isMisread_of_irregular {one stem : String} {rule : String × String}
    (regular : irregular.lookup word = none)
    (made : other irregular endings word = some form)
    (listed : (turned irregular).lookup form = some one)
    (among : rule ∈ endings) (nonempty : stem ≠ "") (word_eq : word = stem ++ rule.1)
    (form_eq : form = stem ++ rule.2) : one ≠ word ∧ isMisread word = true := by
  have one_mem : (one, form) ∈ irregular := by
    obtain ⟨pair, pair_mem, same⟩ := List.mem_map.mp (mem_of_lookup listed)
    obtain ⟨rfl, rfl⟩ := Prod.ext_iff.mp same
    exact pair_mem
  refine ⟨?_, ?_⟩
  · rintro rfl
    simpa using List.lookup_eq_none_iff.mp regular _ one_mem
  · subst word_eq form_eq
    have collision := irregular_collisions (one, stem ++ rule.2) one_mem rule among
    simp only [ofList_take_append] at collision
    rcases collision (hasEnding_append nonempty) with found | misread | other
    · simp [regular] at found
    · exact misread
    · exact absurd made other

/-- A rule that asks for an ending is undone, where its plural is not irregular. -/
theorem back_of_marked {stem : String} {rule : String × String} (small : IsSmall (stem ++ rule.1))
    (made : other irregular endings (stem ++ rule.1) = some (stem ++ rule.2))
    (unlisted : (turned irregular).lookup (stem ++ rule.2) = none)
    (among : rule ∈ markedEndings) (nonempty : stem ≠ "") :
    back (stem ++ rule.1) = some (stem ++ rule.1) ∧ isMisread (stem ++ rule.1) = false := by
  have undone : back (stem ++ rule.1) = some (stem ++ rule.1) := by
    have asked : ((turned markedEndings ++ [("s", "")]).find? fun r =>
        hasEnding (stem ++ rule.swap.1).toList r.1.toList) = some rule.swap := by
      have found := find?_turned nonempty among pairwise_markedEndings
      simp only [Prod.fst_swap, List.find?_append, found, Option.some_or]
    rw [back_of_regular small made unlisted]
    exact changeEnding_of_find? rule.swap (isSmall_of_other small made) asked
  refine ⟨undone, isMisread_eq_false undone fun ending misread => ?_⟩
  rw [← Bool.not_eq_true]
  intro has
  obtain ⟨front, -, same⟩ := hasEnding_iff.mp has
  have ofRule : rule.1.toList <:+ (stem ++ rule.1).toList := ⟨stem.toList, by simp⟩
  have ofEnding : ending.toList <:+ (stem ++ rule.1).toList := ⟨front.toList, by simp [same]⟩
  obtain ⟨notRule, notEnding⟩ := misreadEnding_apart ending misread rule among
  exact (List.suffix_or_suffix_of_suffix ofEnding ofRule).elim notRule notEnding

/-- With an "s" a word without an ending gets that of a plural if it had a misread one before. -/
theorem exists_misreadEnding_iff
    (unmarked : ∀ rule ∈ markedEndings, hasEnding word.toList rule.1.toList = false) :
    (∃ rule ∈ markedEndings, hasEnding (word ++ "s").toList rule.2.toList = true) ↔
      ∃ ending ∈ misreadEndings, hasEnding word.toList ending.toList = true := by
  constructor
  · rintro ⟨rule, among, has⟩
    obtain ⟨front, nonempty, same⟩ := hasEnding_iff.mp has
    rcases plural_ending rule among with men | own | ⟨ending, misread, other⟩
    · have last := congrArg (fun s => s.toList.getLast?) same
      simp [men] at last
    · rw [own, ← String.append_assoc, String.append_left_inj] at same
      have without := unmarked rule among
      rw [same, hasEnding_append nonempty] at without
      cases without
    · rw [other, ← String.append_assoc, String.append_left_inj] at same
      exact ⟨ending, misread, hasEnding_iff.mpr ⟨front, nonempty, same⟩⟩
  · rintro ⟨ending, misread, has⟩
    obtain ⟨front, nonempty, same⟩ := hasEnding_iff.mp has
    obtain ⟨rule, among, other⟩ := exists_rule_of_misreadEnding ending misread
    refine ⟨rule, among, hasEnding_iff.mpr ⟨front, nonempty, ?_⟩⟩
    rw [same, other, String.append_assoc]

/-- A word that only takes an "s" comes back unless what it has then looks like another ending. -/
theorem back_of_unmarked (small : IsSmall word) (nonempty : word ≠ "")
    (regular : irregular.lookup word = none)
    (unmarked : ∀ rule ∈ markedEndings, hasEnding word.toList rule.1.toList = false)
    (made : other irregular endings word = some (word ++ "s"))
    (unlisted : (turned irregular).lookup (word ++ "s") = none) :
    ∃ one, back word = some one ∧ (one = word ↔ isMisread word = false) := by
  have back_eq := back_of_regular small made unlisted
  rcases changeEnding_append (turned markedEndings) ("s", "") (isSmall_of_other small made) rfl
    nonempty with ⟨_, turned_mem, front, frontNonempty, same, undone⟩ | ⟨apart, undone⟩
  · obtain ⟨rule, among, rfl⟩ := List.mem_map.mp turned_mem
    have changed : front ++ rule.1 ≠ word := by
      rintro rfl
      exact absurd (hasEnding_append frontNonempty) (Bool.not_eq_true _ ▸ unmarked rule among)
    have misread : isMisread word = true := by
      refine isMisread_iff.mpr (Or.inr ⟨?_, ?_⟩)
      · rintro rfl
        exact absurd regular (by decide)
      · exact (exists_misreadEnding_iff unmarked).mp
          ⟨rule, among, hasEnding_iff.mpr ⟨front, frontNonempty, same⟩⟩
    exact ⟨front ++ rule.1, back_eq.trans undone, by simp [changed, misread]⟩
  · have undone : back word = some word := by simpa [undone] using back_eq
    refine ⟨word, undone, iff_of_true rfl (isMisread_eq_false undone fun ending misread => ?_)⟩
    rw [← Bool.not_eq_true]
    intro has
    obtain ⟨rule, among, looks⟩ := (exists_misreadEnding_iff unmarked).mpr ⟨ending, misread, has⟩
    have without := apart rule.swap (List.mem_map_of_mem among)
    rw [Prod.fst_swap, looks] at without
    cases without

/-- The way back from the plural of a small word leads to the word exactly if the plural is not
taken for that of another. -/
theorem back_eq_self_iff (small : IsSmall word) (nonempty : word ≠ "") :
    ∃ one, back word = some one ∧ (one = word ↔ isMisread word = false) := by
  cases found : irregular.lookup word with
  | some many =>
    obtain ⟨-, listed, fair⟩ := lookup_of_mem_irregular (word, many) (mem_of_lookup found)
    have made : other irregular endings word = some many := by
      simp only [other, Text.lowerText_of_isSmall small, found, matchCase_of_isSmall small]
    exact ⟨word, back_of_irregular small made listed, by simp [fair]⟩
  | none =>
    rcases other_of_regular small nonempty found with
      ⟨rule, among, stem, stemNonempty, rfl, made⟩ | ⟨unmarked, made⟩
    · cases listed : (turned irregular).lookup (stem ++ rule.2) with
      | some one =>
        obtain ⟨changed, misread⟩ := isMisread_of_irregular found made listed
          (List.dropLast_subset _ among) stemNonempty rfl rfl
        exact ⟨one, back_of_irregular small made listed, by simp [changed, misread]⟩
      | none =>
        obtain ⟨undone, fair⟩ := back_of_marked small made listed among stemNonempty
        exact ⟨_, undone, by simp [fair]⟩
    · cases listed : (turned irregular).lookup (word ++ "s") with
      | some one =>
        have last : ("", "s") ∈ endings := by simp [endings]
        obtain ⟨changed, misread⟩ := isMisread_of_irregular found made listed last nonempty
          (by simp) rfl
        exact ⟨one, back_of_irregular small made listed, by simp [changed, misread]⟩
      | none => exact back_of_unmarked small nonempty found unmarked made listed

end Back

/-- Every word of ASCII letters has a plural with a singular, which is the word again, whatever the
case of letters, exactly if the plural is not taken for that of another word. -/
theorem singular_plural_iff {word : String} (latin : IsLatin word) (nonempty : word ≠ "") :
    ∃ many one, plural word = .ok many ∧ singular many = .ok one ∧
      (lowerText one = lowerText word ↔ isMisread (lowerText word) = false) := by
  have lowerNonempty : lowerText word ≠ "" := by
    intro none
    have letters := Text.toList_lowerText latin
    simp [none, nonempty] at letters
  obtain ⟨one, undone, same⟩ := back_eq_self_iff (Text.isSmall_lowerText latin) lowerNonempty
  obtain ⟨latinMany, lowerMany⟩ := other_lowerText smallForms_irregular smallForms_endings latin
  rw [back, ← lowerMany] at undone
  cases many_eq : other irregular endings word with
  | none => simp [many_eq] at undone
  | some many =>
    obtain ⟨-, lowerOne⟩ := other_lowerText smallForms_irregular.turned smallForms_endings.turned
      (latinMany many many_eq)
    rw [many_eq, Option.map_some, Option.bind_some, ← lowerOne] at undone
    obtain ⟨single, single_eq, rfl⟩ := Option.map_eq_some_iff.mp undone
    exact ⟨many, single, by simp [plural, many_eq], by simp [singular, single_eq], same⟩

example : (plural "Movie").bind singular = .ok "Movy" := by decide +kernel

end Worldsmith.Inflection
