import Worldsmith.Language.Prose
import Worldsmith.Proofs.Lists
import Worldsmith.Text.Alphabetic
import Worldsmith.World.Basic

/-!
# Names of words

Names that consist of words, and words of letters, hold no other characters but the spaces between
words. So what is put together of them and of other characters can be taken apart again.

## Main definitions

* `World.Holds` — a concept is one of the world's own.
* `World.IsLettered` — the names of concepts consist of words of letters, and no two concepts share
  a name.
-/

namespace Worldsmith

/-- Whether a token is a word of letters. -/
structure Token.IsLettered (token : Token) : Prop where
  kind : token.kind = .word
  letters : ∀ c ∈ token.text.toList, Text.isAlphabetic c = true

/-- Whether a name consists of words of letters. -/
def Name.IsLettered (name : Name) : Prop := ∀ token ∈ name, token.IsLettered

/-- Whether a character can be part of a name of words of letters. -/
def isNameChar (c : Char) : Bool := Text.isAlphabetic c || c == ' '

theorem isNameChar_untokenizeFrom (state : ProseState) {tokens : List Token}
    (lettered : Name.IsLettered tokens) :
    ∀ c ∈ (untokenizeFrom state tokens).toList, isNameChar c = true := by
  induction tokens generalizing state with
  | nil => simp [untokenizeFrom]
  | cons token rest ih =>
    obtain ⟨first, others⟩ := List.forall_mem_cons.mp lettered
    have render : token.render = token.text := by simp [Token.render, first.kind]
    have space : ∀ c ∈ (if state.spaceBefore token then " " else "").toList,
        isNameChar c = true := by
      split <;> simp [isNameChar]
    rw [untokenizeFrom, render]
    generalize (if state.spaceBefore token then " " else "") = gap at space ⊢
    split_ifs
    · exact ih _ others
    · intro c hc
      rw [String.toList_append, String.toList_append, List.mem_append, List.mem_append] at hc
      rcases hc with (hc | hc) | hc
      · exact space c hc
      · rw [isNameChar, first.letters c hc, Bool.true_or]
      · exact ih _ others c hc

theorem isNameChar_untokenize {name : Name} (lettered : name.IsLettered) :
    ∀ c ∈ (untokenize name).toList, isNameChar c = true :=
  isNameChar_untokenizeFrom _ lettered

namespace World

/-- Whether a concept is one of the world's own. -/
def Holds (world : World) : Concept → Prop
  | .kind id => id.index < world.kinds.size
  | .adjective id => id.index < world.adjectives.size
  | .verb id => id.index < world.verbs.size
  | .individual id => id.index < world.individuals.size

/-- The name by which a concept goes: a kind's in the singular, a verb's base form. -/
def conceptName (world : World) : Concept → Name
  | .kind id => (world.kind id).singular
  | .adjective id => (world.adjective id).name
  | .verb id => (world.verb id).base
  | .individual id => (world.individual id).name

/-- Whether the names of concepts consist of words of letters, and no two concepts share a name. -/
structure IsLettered (world : World) : Prop where
  lettered : ∀ concept, world.Holds concept → (world.conceptName concept).IsLettered
  eq_of_name : ∀ c c', world.Holds c → world.Holds c' →
    untokenize (world.conceptName c) = untokenize (world.conceptName c') → c = c'

/-- What is not the world's own has no name. -/
theorem conceptName_eq_nil {world : World} {concept : Concept} (other : ¬world.Holds concept) :
    world.conceptName concept = [] := by
  cases concept <;>
    simp only [Holds, Nat.not_lt] at other <;>
    simp only [conceptName, kind, adjective, verb, individual, Array.getD_eq_getD_getElem?,
      Array.getElem?_eq_none other, Option.getD_none] <;>
    rfl

/-- Where the concepts can be listed, their names can be checked one by one. -/
theorem isLettered_of_concepts {world : World} (concepts : List Concept)
    (listed : ∀ concept, world.Holds concept → concept ∈ concepts)
    (lettered : ∀ concept ∈ concepts, ∀ token ∈ world.conceptName concept,
      token.kind = .word ∧ token.text.toList.all Text.isAlphabetic = true)
    (nodup : (concepts.map fun concept => untokenize (world.conceptName concept)).Nodup) :
    world.IsLettered where
  lettered concept held token mem :=
    have word := lettered concept (listed concept held) token mem
    ⟨word.1, List.all_eq_true.mp word.2⟩
  eq_of_name c c' held held' := List.inj_on_of_nodup_map nodup (listed c held) (listed c' held')

namespace IsLettered

variable {world : World} (named : world.IsLettered)
include named

theorem isNameChar (concept : Concept) :
    ∀ c ∈ (untokenize (world.conceptName concept)).toList, isNameChar c = true := by
  refine isNameChar_untokenize ?_
  by_cases own : world.Holds concept
  · exact named.lettered concept own
  · simp [conceptName_eq_nil own, Name.IsLettered]

/-- A name is that of one concept only. -/
theorem eq_of_name_ne {c c' : Concept} (some_name : untokenize (world.conceptName c) ≠ "")
    (same : untokenize (world.conceptName c) = untokenize (world.conceptName c')) : c = c' := by
  have own {c : Concept} (some_name : untokenize (world.conceptName c) ≠ "") : world.Holds c := by
    by_contra other
    rw [conceptName_eq_nil other] at some_name
    exact some_name rfl
  exact named.eq_of_name c c' (own some_name) (own (same ▸ some_name)) same

end IsLettered

end World

end Worldsmith
