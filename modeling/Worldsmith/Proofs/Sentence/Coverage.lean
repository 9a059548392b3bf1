import Worldsmith.Proofs.Sentence.Attempts

/-!
# Mentions and coinages

What a sentence coins is what it mentions. A mention that points into the coinages leads to one of
the sort that the slot asks for, and there is no coinage that nothing points to: every reading that
coins gives back the place of what it has coined, and those that fail are forgotten together with
their coinages.

## Main definitions

* `Reader.Covers` — all that is coined between two readers is mentioned.

## Main statements

* `Reader.ReadsOn.covers` — what is coined on the way is mentioned.
* `Pattern.leaves_nothing_behind` — matching that fails leaves all as it was, and a sentence that is
  understood has no coinages but those that it refers to, each as what it is.
-/

namespace Worldsmith

/-- Whether all that is coined between two readers is mentioned. -/
def Reader.Covers (before : Reader) (mentions : List Mention) (after : Reader) : Prop :=
  ∀ index, before.coinages.length ≤ index → index < after.coinages.length →
    Mention.coined index ∈ mentions

namespace Reader

variable {world : World} {reader reader' : Reader} {sort : Coinage → Bool} {mention : Mention}
  {mentions mentions' : List Mention}

namespace Covers

theorem refl (reader : Reader) (mentions : List Mention) : reader.Covers mentions reader := by
  intro index before after
  omega

theorem append {first last : Reader} (before : first.Covers mentions reader)
    (after : reader.Covers mentions' last) : first.Covers (mentions ++ mentions') last := by
  intro index ahead made
  rcases Nat.lt_or_ge index reader.coinages.length with early | late
  · exact List.mem_append_left _ (before index ahead early)
  · exact List.mem_append_right _ (after index late made)

end Covers

theorem Finds.covers (found : reader.Finds world sort mention reader') :
    reader.Covers [mention] reader' := by
  cases found with
  | known | coined => exact .refl reader _
  | new coinage =>
    intro index before after
    rw [List.length_append, List.length_singleton] at after
    simp [show index = reader.coinages.length by omega]

/-- What is coined on the way is mentioned. -/
theorem ReadsOn.covers (readsOn : reader.ReadsOn world mentions reader') :
    reader.Covers mentions reader' := by
  induction readsOn with
  | stay reader => exact .refl reader []
  | find found _ ih => exact found.covers.append ih
  | go position _ ih => exact ih

end Reader

/-- What a sentence coins is what it mentions, each as what it is. -/
theorem Pattern.suits_of_understand {world : World} {tokens : List Token} {reading : Reading}
    (understood : understand world tokens = .ok reading) :
    List.Forall₂ (Slot.Suits reading.coinages) reading.pattern.slots reading.constituents ∧
      ∀ index < reading.coinages.length, ∃ constituent ∈ reading.constituents,
        .coined index ∈ constituent.mentions := by
  obtain ⟨reader, coined, fills⟩ := fills_of_understand understood
  rw [← coined]
  exact ⟨fills.suits, fun index made =>
    List.mem_flatMap.mp (fills.readsOn.covers index (Nat.zero_le _) made)⟩

/-- Matching with one reader leaves all as it was if it fails, and comes to what matching comes to
otherwise; and a sentence that is understood has no coinages but those that it refers to, each as
what it is. -/
theorem Pattern.leaves_nothing_behind (world : World) :
    (∀ (elements : List Element) (start : Matching),
      (Element.matchInPlace world elements start).1 = false →
        (Element.matchInPlace world elements start).2 = start) ∧
    (∀ (elements : List Element) (start : Matching),
      Element.matchInPlace world elements start =
        start.outcome (Element.matchAll world elements start.reader start.found)) ∧
    ∀ (tokens : List Token) (reading : Reading), understand world tokens = .ok reading →
      List.Forall₂ (Slot.Suits reading.coinages) reading.pattern.slots reading.constituents ∧
        ∀ index < reading.coinages.length, ∃ constituent ∈ reading.constituents,
          .coined index ∈ constituent.mentions := by
  refine ⟨fun elements start fails => ?_, Element.matchInPlace_eq world, fun tokens reading =>
    suits_of_understand⟩
  rw [Element.matchInPlace_eq] at fails ⊢
  cases matched : Element.matchAll world elements start.reader start.found with
  | none => rfl
  | some result => simp [matched, Matching.outcome] at fails

/-- A series that breaks off after it has coined a kind. -/
def catsAndThe : List Token := [.word "cats", .word "and", .word "the"]

/-- A sentence that coins a kind and an adjective. -/
def fuzzyCats : List Token := [.word "cats", .word "can", .word "be", .word "fuzzy"]

theorem coinages_catsAndThe :
    ((Slot.nouns.attempt .empty 3).on (.ofTokens catsAndThe)).1 = none ∧
      ((Slot.nouns.attempt .empty 3).on (.ofTokens catsAndThe)).2.coinages.length = 1 ∧
      (Element.matchInPlace .empty [.slot .nouns] ⟨.ofTokens catsAndThe, []⟩).1 = false := by
  decide +kernel

theorem coinages_fuzzyCats :
    ((Pattern.understand .empty fuzzyCats).map fun reading => reading.coinages.length) = .ok 2 := by
  decide +kernel

/-- The series leaves its coinage behind, matching does not, and the sentence refers to both of its
coinages. -/
theorem Pattern.leaves_nothing_behind_fuzzyCats :
    ((Slot.nouns.attempt .empty 3).on (.ofTokens catsAndThe)).1 = none ∧
    ((Slot.nouns.attempt .empty 3).on (.ofTokens catsAndThe)).2.coinages.length = 1 ∧
    (Element.matchInPlace .empty [.slot .nouns] ⟨.ofTokens catsAndThe, []⟩).2 =
      ⟨.ofTokens catsAndThe, []⟩ ∧
    ∃ reading, understand .empty fuzzyCats = .ok reading ∧ reading.coinages.length = 2 ∧
      List.Forall₂ (Slot.Suits reading.coinages) reading.pattern.slots reading.constituents ∧
        ∀ index < reading.coinages.length, ∃ constituent ∈ reading.constituents,
          .coined index ∈ constituent.mentions := by
  obtain ⟨broken, left, fails⟩ := coinages_catsAndThe
  obtain ⟨unchanged, -, coined⟩ := leaves_nothing_behind .empty
  obtain ⟨reading, understood, two⟩ := exists_of_map_eq_ok coinages_fuzzyCats
  exact ⟨broken, left, unchanged _ _ fails, reading, understood, two, coined _ _ understood⟩

end Worldsmith
