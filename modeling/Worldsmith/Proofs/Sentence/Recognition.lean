import Worldsmith.Proofs.Language.LongestName
import Worldsmith.Proofs.Language.Prose
import Worldsmith.Proofs.Sentence.Filling

/-!
# Which pattern reads a sentence

A pattern reads no sentence that lacks one of its words. So where all that fills the slots is plain,
which means that it has nothing in common with any pattern, the words between the slots tell which
patterns can read a sentence, whatever is known and whatever is named.

## Main definitions

* `Token.isPlain` — whether a token is a word that has no part in any pattern.
* `Pattern.Misses` — whether a pattern has a word that a sentence does not have.

## Main statements

* `Pattern.read?_eq_none` — a pattern does not read a sentence that lacks one of its words.
* `Pattern.misses_of_spoken` — whether it does can be told from the words between plain ones.
* `Pattern.understand_eq_ok` — a pattern reads a sentence if all patterns before it miss it.
-/

namespace Worldsmith

/-! ## Plain words -/

/-- The word that an element is. -/
def Element.word? : Element → Option String
  | .word key => some key
  | .slot _ | .requirement _ => none

/-- The words of a pattern. -/
def Pattern.words (pattern : Pattern) : List String := pattern.elements.filterMap Element.word?

/-- All that can tell what a sentence says. -/
def grammarWords : List String :=
  "," :: reservedWords ++ numberWords ++ Pattern.library.flatMap Pattern.words

/-- Whether a token is a word as it is typed, and has no part in any pattern. -/
def Token.isPlain (token : Token) : Bool :=
  token.isTyped && token.kind == .word && !token.isOneOf grammarWords

/-- Whether a name consists of plain words. -/
def Name.isPlain (name : Name) : Bool := !name.isEmpty && name.all Token.isPlain

section Plain

variable {token : Token} {name : Name} {pattern : Pattern} {key : String}

theorem Token.kind_of_isPlain (plain : token.isPlain = true) : token.kind = .word := by
  simp only [isPlain, Bool.and_eq_true, beq_iff_eq] at plain
  exact plain.1.2

theorem Token.isTyped_of_isPlain (plain : token.isPlain = true) : token.isTyped = true := by
  simp only [isPlain, Bool.and_eq_true] at plain
  exact plain.1.1

theorem Token.reads_of_isPlain (plain : token.isPlain = true) (mem : key ∈ grammarWords) :
    token.reads key = false := by
  simp only [isPlain, Bool.and_eq_true, isOneOf, Bool.not_eq_true', List.any_eq_false] at plain
  simpa using plain.2 key mem

theorem Name.ne_nil_of_isPlain (plain : name.isPlain = true) : name ≠ [] := by
  rintro rfl
  cases plain

theorem Name.isPlain_of_mem (plain : name.isPlain = true) (mem : token ∈ name) :
    token.isPlain = true := by
  simp only [isPlain, Bool.and_eq_true, List.all_eq_true] at plain
  exact plain.2 token mem

theorem Pattern.mem_grammarWords (mem : pattern ∈ library) (word : key ∈ pattern.words) :
    key ∈ grammarWords :=
  List.mem_append_right _ (List.mem_flatMap.mpr ⟨pattern, mem, word⟩)

/-- Where a pattern has a word no plain word can stand. -/
theorem Token.wordMatches_of_isPlain (plain : token.isPlain = true) (mem : key ∈ grammarWords) :
    Element.wordMatches token key = false := by
  have article : token.reads "an" = false := reads_of_isPlain plain (by decide)
  rw [Element.wordMatches, reads_of_isPlain plain mem, article]
  simp

theorem Token.determiner?_of_isPlain (plain : token.isPlain = true) : determiner? token = none := by
  have article : token.reads "a" = false := reads_of_isPlain plain (by decide)
  have article' : token.reads "an" = false := reads_of_isPlain plain (by decide)
  have number : numberWords.findIdx? token.reads = none := by
    rw [List.findIdx?_eq_none_iff]
    intro word mem
    refine reads_of_isPlain plain (List.mem_append_left _ (List.mem_append_right _ mem))
  rw [determiner?, article, article', count?, kind_of_isPlain plain, number]
  rfl

theorem Token.separator?_of_isPlain (plain : token.isPlain = true) : separator? token = none := by
  have conjunction : token.reads "and" = false := reads_of_isPlain plain (by decide)
  have conjunction' : token.reads "or" = false := reads_of_isPlain plain (by decide)
  have comma : token.reads "," = false := reads_of_isPlain plain (by decide)
  rw [separator?, conjunction, conjunction', comma]
  rfl

end Plain

/-! ## The first pattern that reads a sentence -/

namespace Pattern

variable {world : World} {tokens : List Token} {pattern : Pattern} {reading : Reading}
  {index : Nat} {spoken : List String}

/-- Whether a pattern has a word that some tokens do not have. -/
def Misses (pattern : Pattern) (tokens : List Token) : Prop :=
  ∃ key ∈ pattern.words, ∀ token ∈ tokens, Element.wordMatches token key = false

/-- Elements do not match what lacks one of their words. -/
theorem matchAll_eq_none {elements : List Element} {reader : Reader} {found : List Constituent}
    {key : String} (word : .word key ∈ elements)
    (absent : ∀ token ∈ reader.tokens, Element.wordMatches token key = false) :
    Element.matchAll world elements reader found = none := by
  induction elements generalizing reader found with
  | nil => cases word
  | cons element rest ih =>
    rcases List.mem_cons.mp word with rfl | later
    · have nowhere : reader.peek?.any (Element.wordMatches · key) = false := by
        rw [Option.any_eq_false]
        exact fun token here => by simp [absent token (List.mem_of_getElem? here)]
      rw [Element.matchAll, nowhere]
      rfl
    · cases element with
      | word other =>
        rw [Element.matchAll]
        split_ifs
        · exact ih later absent
        · rfl
      | requirement r =>
        rw [Element.matchAll]
        split_ifs
        · exact ih later absent
        · rfl
      | slot s =>
        -- wherever the slot ends, the tokens that the rest is matched against are still the same
        rw [Element.matchAll, List.findSome?_eq_none_iff]
        intro stop _
        split
        · rfl
        · rename_i constituent after filled
          exact ih later ((Slot.yields_of_fill filled).1.tokens ▸ absent)

theorem read?_eq_none (misses : pattern.Misses tokens) :
    pattern.read? world tokens index = none := by
  obtain ⟨key, mem, absent⟩ := misses
  obtain ⟨element, among, same⟩ := List.mem_filterMap.mp mem
  cases element with
  | word other =>
    cases same
    rw [read?, matchAll_eq_none among absent]
    rfl
  | slot | requirement => cases same

/-- A sentence is understood by a pattern that reads it, where all patterns before it miss it. -/
theorem understand_eq_ok (here : library[index]? = some pattern)
    (read : pattern.read? world tokens index = some reading)
    (others : ∀ other ∈ library.take index, other.Misses tokens) :
    understand world tokens = .ok reading := by
  obtain ⟨inside, same⟩ := List.getElem?_eq_some_iff.mp here
  have first : (library.zipIdx.findSome? fun place => place.1.read? world tokens place.2) =
      some reading := by
    refine List.findSome?_eq_some_iff.mpr ⟨library.zipIdx.take index, (pattern, index),
      library.zipIdx.drop (index + 1), ?_, read, ?_⟩
    · have placed : index < library.zipIdx.length := by simpa using inside
      have place : (pattern, index) = library.zipIdx[index] := by simp [same]
      rw [place, ← List.drop_eq_getElem_cons, List.take_append_drop]
    · intro place mem
      have among : place.1 ∈ library.take index := by
        have mapped := List.mem_map_of_mem (f := Prod.fst) mem
        rwa [List.map_take, List.zipIdx_map_fst] at mapped
      exact read?_eq_none (others place.1 among)
  unfold understand
  split
  · rename_i found read
    cases read.symm.trans first
    rfl
  · rename_i nothing
    cases nothing.symm.trans first

/-- A pattern that has a word that is neither spoken nor plain misses it. -/
theorem misses_of_spoken (mem : pattern ∈ library)
    (lacks : ∃ key ∈ pattern.words, ∀ word ∈ spoken,
      Element.wordMatches (.word word) key = false)
    (made : ∀ token ∈ tokens, token.isPlain = true ∨ ∃ word ∈ spoken, token = .word word) :
    pattern.Misses tokens := by
  obtain ⟨key, word, unspoken⟩ := lacks
  refine ⟨key, word, fun token among => ?_⟩
  rcases made token among with plain | ⟨spoken, said, rfl⟩
  · exact Token.wordMatches_of_isPlain plain (mem_grammarWords mem word)
  · exact unspoken spoken said

end Pattern

end Worldsmith
